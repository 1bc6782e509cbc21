import RoboBaton.Camera.Laws
import RoboBaton.Camera.RateLog
import Mathlib.Data.Fintype.BigOperators

/-! Every frame of a camera is accounted for: the laws of its counters over whole runs. -/

namespace RoboBaton.Camera
open Trace Discipline Transition Metrics
variable {D : Type} {cameraInfo : Bool} {c : CameraId}

/-! ### What never comes back -/

section Steps
variable {s s' : Core D}

theorem Law.On.back {L : Law} (h : Onward s s') (hon : L.On s') : L.On s where
  enabled hs := by
    obtain ⟨hs', hconfig⟩ := h.claimed hs
    exact hconfig ▸ hon.enabled hs'
  calm hcalm := by
    obtain ⟨hfailed, hstop⟩ := hon.calm hcalm
    refine ⟨Bool.eq_false_iff.mpr fun hs => ?_, Bool.eq_false_iff.mpr fun hs => ?_⟩
    · exact absurd ((h.failed hs).symm.trans hfailed) (by decide)
    · exact absurd ((h.stopRequested hs).symm.trans hstop) (by decide)
  blocking hblocking hs := by
    obtain ⟨hs', hconfig⟩ := h.claimed hs
    exact hconfig ▸ hon.blocking hblocking hs'

end Steps

/-! ### What a thread may have pending -/

def CallbackStage.owing : CallbackStage → Tally → ℕ
  | .holding, .source => 1
  | .away, .drop => 1
  | _, _ => 0

def WorkerStage.owing : WorkerStage → Tally → ℕ
  | .published, .publish => 1
  | .away, .auxiliary => 1
  | .failing, .failure => 1
  | _, _ => 0

def CallbackOwes (c : CameraId) (l : Code CallbackPc) : Prop :=
  ∀ t, pending c l.pending t ≤ (l.pc.stage c).owing t

def WorkerOwes (c c' : CameraId) (l : Code WorkerPc) : Prop :=
  ∀ t, pending c l.pending t ≤ if c' = c then l.pc.stage.owing t else 0

section Owes
variable {s s' : Core D}

theorem pending_common_le (spurious : Bool) (s : Core D) (c : CameraId) (op : CommonOp)
    (ops : List CommonOp) (t : Tally) :
    pending c ((op.exec spurious s).2 ++ ops) t ≤ pending c (op :: ops) t := by
  have htally := common_tally spurious s c op ops t
  have hle : t.total (s.metrics c) ≤ t.total ((op.exec spurious s).1.metrics c) := by
    by_cases hop : ∃ c' a, op = .access c' a
    · obtain ⟨c', a, rfl⟩ := hop
      show _ ≤ t.total (Function.update s.metrics c' _ c)
      by_cases hc : c = c'
      · subst hc
        rw [Function.update_self, (total_exec spurious _ a t).1]
        exact Nat.le_add_right _ _
      · rw [Function.update_of_ne hc]
    · rw [(common_metrics spurious s fun c' a h => hop ⟨c', a, h⟩).1]
  omega

theorem callbackFailure_owes (c : CameraId) : CallbackOwes c callbackFailure := fun t => by
  have hnone : pending c callbackFailure.pending t = 0 := pending_eq_zero c (by
    simp [callbackFailure, closeAdmissionAndRequestStop, recordFailure]) t
  rw [hnone]
  exact Nat.zero_le _

theorem callback_owes [DecidableEq D] {d : D} {l l' : Code CallbackPc} (hl : CallbackOwes c l)
    (h : CallbackStep d s l s' l') : CallbackOwes c l' := by
  cases h with
  | common spurious op ops pc => exact fun t => (pending_common_le spurious s c op ops t).trans (hl t)
  | info scan c' frame status info nowNs =>
    intro t
    simp only [pending_record, count_recordSource, CallbackPc.stage]
    by_cases hc : c' = c
    · simp only [hc, and_true, if_true]
      cases t <;> split <;> simp [CallbackStage.owing]
    · simp only [hc, and_false, if_false]
      exact Nat.zero_le _
  | dropped scan c' job =>
    intro t
    simp only [pending_record, count_recordDrop, CallbackPc.stage]
    split
    · cases t <;> simp [CallbackStage.owing]
    · exact Nat.zero_le _
  | throwHeader set => exact callbackFailure_owes c
  | throwItem scan => exact callbackFailure_owes c
  | throwRetain scan c' frame info => exact callbackFailure_owes c
  | unwind job => exact callbackFailure_owes c
  | _ => exact fun t => Nat.zero_le _

theorem workerFailure_owes (c c' : CameraId) : WorkerOwes c c' workerFailure := fun t => by
  have hnone : pending c workerFailure.pending t = 0 := pending_eq_zero c (by
    simp [workerFailure, closeAdmissionAndRequestStop, recordFailure]) t
  rw [hnone]
  exact Nat.zero_le _

theorem record_owes {c' : CameraId} {job : RetainedFrameJob} (hjob : JobOf c' job)
    {as : List Access} {t₀ : Tally}
    (has : ∀ t : Tally, as.count t.access = if t = t₀ then 1 else 0) {pc : WorkerPc}
    (hpc : pc.stage.owing t₀ = 1) : WorkerOwes c c' ⟨recordJob s job as, pc⟩ := by
  intro t
  simp only [recordJob_of_routed hjob, pending_record, has]
  by_cases hc : c' = c
  · simp only [hc, and_true, if_true]
    split
    · split
      · rename_i ht
        exact ht ▸ hpc.ge
      · exact Nat.zero_le _
    · exact Nat.zero_le _
  · simp only [hc, and_false, if_false, le_refl]

theorem worker_owes {c' : CameraId} {l l' : Code WorkerPc} (hrouted : WorkerRouted c' l)
    (hl : WorkerOwes c c' l) (h : WorkerStep cameraInfo c' s l s' l') : WorkerOwes c c' l' := by
  cases h with
  | common spurious op ops pc => exact fun t => (pending_common_le spurious s c op ops t).trans (hl t)
  | published job latencyNs =>
    exact record_owes (hrouted job (List.mem_singleton_self _)) (count_recordPublishSuccess _) rfl
  | throwImage job =>
    exact record_owes (hrouted job (List.mem_singleton_self _)) count_recordFailure rfl
  | publishedInfo job =>
    split
    · exact record_owes (hrouted job (List.mem_singleton_self _)) count_recordAuxiliary rfl
    · exact fun t => Nat.zero_le _
  | throwInfo job =>
    exact record_owes (hrouted job (List.mem_singleton_self _)) count_recordFailure rfl
  | unwind job => exact workerFailure_owes c c'
  | _ => exact fun t => Nat.zero_le _

end Owes

/-! ### What the threads hold at least -/

def Thread.equivSum : Unit ⊕ (D ⊕ CameraId) ≃ Thread D where
  toFun
    | .inl () => .owner
    | .inr (.inl d) => .dispatcher d
    | .inr (.inr c) => .worker c
  invFun
    | .owner => .inl ()
    | .dispatcher d => .inr (.inl d)
    | .worker c => .inr (.inr c)
  left_inv := by rintro (_ | _ | _) <;> rfl
  right_inv := by rintro (_ | _ | _) <;> rfl

theorem sum_threads [Fintype D] [DecidableEq D] (f : Thread D → ℤ) :
    ∑ i, f i = f .owner + (∑ d, f (.dispatcher d) + ∑ c, f (.worker c)) := by
  rw [← Thread.equivSum.sum_comp f, Fintype.sum_sum_type, Fintype.sum_sum_type, Fintype.sum_unique]
  rfl

theorem weigh_ge (w : Tally → ℤ) {n k : Tally → ℕ} (h : ∀ t, n t ≤ k t) :
    weigh (fun t => min (w t) 0) k ≤ weigh w n := by
  have hterm : ∀ t, min (w t) 0 * (k t : ℤ) ≤ w t * n t := by
    intro t
    have hle : (n t : ℤ) ≤ k t := Int.ofNat_le.mpr (h t)
    obtain hw | hw := le_total 0 (w t)
    · rw [min_eq_right hw, zero_mul]
      exact mul_nonneg hw (Int.natCast_nonneg _)
    · rw [min_eq_left hw]
      exact mul_le_mul_of_nonpos_left hle hw
  have h1 := hterm .source
  have h2 := hterm .publish
  have h3 := hterm .auxiliary
  have h4 := hterm .drop
  have h5 := hterm .failure
  simp only [weigh]
  linarith

namespace Law

def callbackLow (L : Law) (stage : CallbackStage) : ℤ :=
  L.callback stage + weigh (fun t => min (L.weight t) 0) stage.owing

def workerLow (L : Law) (stage : WorkerStage) : ℤ :=
  L.worker stage + weigh (fun t => min (L.weight t) 0) stage.owing

end Law

/-! ### The laws over whole runs -/

section Reached
variable [Fintype D] [DecidableEq D] {s : State D}

def ThreadOwes (c : CameraId) : ∀ i : Thread D, Local i → Prop
  | .owner, _ => True
  | .dispatcher _, (l : Code CallbackPc) => CallbackOwes c l
  | .worker c', (l : Code WorkerPc) => WorkerOwes c c' l

theorem reachable_owes (c : CameraId) (h : (threads D cameraInfo).Reachable s) (i : Thread D) :
    ThreadOwes c i (s.locals i) := by
  refine (Threads.Reachable.outline (T := threads D cameraInfo) (I := fun _ => True)
    (J := fun i _ l => ThreadOwes c i l) ⟨trivial, ?_⟩ ?_ (fun _ _ _ _ _ _ _ _ _ _ _ h => h) h).2 i
  · rintro (_ | d | c')
    · trivial
    · exact fun t => Nat.zero_le _
    · exact fun t => Nat.zero_le _
  · intro s i a s' l' hs _ hJ hst
    refine ⟨trivial, ?_⟩
    cases i with
    | owner => trivial
    | dispatcher d => exact callback_owes hJ (frameSetTrampoline_step hst)
    | worker c' => exact worker_owes ((reachable_routed hs).2 (.worker c')) hJ (workerLoop_step hst).2

theorem Law.holds {L : Law} (hS : L.Sound cameraInfo) (h : (threads D cameraInfo).Reachable s)
    (hon : L.On s.shared) :
    L.value c s.shared + ∑ i, L.share c i (s.locals i) ≤ L.worker .away := by
  have key := Threads.Reachable.potential_le (T := threads D cameraInfo) L.On (L.value c) (L.share c)
    ?_ h hon
  · refine key.trans (le_of_eq ?_)
    have hvalue : L.value c (threads D cameraInfo).shared = 0 := by
      simp [value, weigh, threads, Core.init, jobsOf, Tally.total, Metrics.new]
    have hcallbacks : ∀ d, L.share c (.dispatcher d) ((threads D cameraInfo).locals (.dispatcher d)) =
        0 := fun d => (L.callbackShare_of c .idle).trans hS.away
    have hworkers : ∀ c', L.share c (.worker c') ((threads D cameraInfo).locals (.worker c')) =
        if c' = c then L.worker .away else 0 := fun c' => L.workerShare_of c c' .pop
    rw [hvalue, sum_threads, Finset.sum_congr rfl fun d _ => hcallbacks d,
      Finset.sum_congr rfl fun c' _ => hworkers c', Finset.sum_const_zero, Finset.sum_ite_eq',
      if_pos (Finset.mem_univ c)]
    show 0 + (0 + (0 + L.worker .away)) = _
    ring
  · intro s i a s' l' hs hon' hst
    have hon : L.On s.shared := hon'.back (step_onward hst)
    refine ⟨hon, ?_⟩
    obtain ⟨hL, hok⟩ := reachable_core hs
    obtain ⟨hQ, hrouted⟩ := reachable_routed hs
    cases i with
    | owner =>
      show L.value c s' + 0 ≤ L.value c s.shared + 0
      obtain ⟨rfl, -⟩ | ⟨op, rest, hops, he⟩ := ownerStep_cases hst
      · exact le_refl _
      · have howner : OwnerOk s.shared (s.locals .owner) := hok .owner
        have hsafe := howner.safe
        have hmetrics := (reachable_ops hs).metrics
        rw [hops] at hsafe hmetrics
        -- the owner has no share of its own
        have hle : L.value c s' ≤ L.value c s.shared := owner_le hS hsafe hon
          (fun c a ho => hmetrics c a (ho ▸ List.mem_cons_self)) (exec_effect he)
        linarith
    | dispatcher d => exact callback_le hS hL hQ (hok (.dispatcher d)) hon (frameSetTrampoline_step hst)
    | worker c' =>
      obtain ⟨hrunning, hstep⟩ := workerLoop_step hst
      exact worker_le hS hL (hok (.worker c')) (hrouted (.worker c')) hon hrunning hstep

/-- What is in the counters and in the queue, when every callback and the worker hold no less
than `β` and `ω`. -/
theorem Law.bound {L : Law} {β ω : ℤ} (hS : L.Sound cameraInfo)
    (hcallback : ∀ stage, β ≤ L.callbackLow stage) (hworker : ∀ stage, ω ≤ L.workerLow stage)
    (h : (threads D cameraInfo).Reachable s) (hon : L.On s.shared) :
    L.value c s.shared + (Fintype.card D * β + ω) ≤ L.worker .away := by
  refine le_trans (add_le_add_right ?_ _) (L.holds hS h hon)
  have howes := reachable_owes c h
  have hcallbacks : ∀ d, β ≤ L.share c (.dispatcher d) (s.locals (.dispatcher d)) := fun d =>
    (hcallback _).trans (add_le_add_right (weigh_ge L.weight (howes (.dispatcher d))) _)
  have hworkers : ∀ c', (if c' = c then ω else 0) ≤
      L.share c (.worker c') (s.locals (.worker c')) := by
    intro c'
    have hpending : WorkerOwes c c' (s.locals (.worker c')) := howes (.worker c')
    show _ ≤ L.workerShare c c' (s.locals (.worker c'))
    generalize (s.locals (.worker c') : Code WorkerPc) = l at hpending
    unfold WorkerOwes at hpending
    unfold workerShare
    by_cases hc : c' = c
    · simp only [hc, if_true] at hpending ⊢
      exact (hworker _).trans (add_le_add_right (weigh_ge L.weight hpending) _)
    · simp only [hc, if_false] at hpending ⊢
      have hnone : pending c l.pending = fun _ => 0 := funext fun t => Nat.le_zero.mp (hpending t)
      rw [hnone, weigh_zero, add_zero]
  rw [sum_threads]
  have hsum := Finset.sum_le_sum fun d (_ : d ∈ Finset.univ) => hcallbacks d
  have hsum' := Finset.sum_le_sum fun c' (_ : c' ∈ Finset.univ) => hworkers c'
  rw [Finset.sum_const, Finset.card_univ, nsmul_eq_mul] at hsum
  rw [Finset.sum_ite_eq', if_pos (Finset.mem_univ c)] at hsum'
  show _ ≤ 0 + _
  linarith

end Reached

/-! ### The laws -/

def countedLaw : Law where
  weight
    | .publish => 1
    | .drop => 1
    | .source => -1
    | _ => 0
  queued := 1
  callback
    | .holding => 1
    | .refused => 1
    | _ => 0
  worker
    | .holding => 1
    | _ => 0
  calm := false
  blocking := false

/-- A frame that has been counted is published, dropped, queued or in somebody's hands. -/
def keptLaw : Law where
  weight
    | .source => 1
    | .publish => -1
    | .drop => -1
    | _ => 0
  queued := -1
  callback
    | .away => 0
    | _ => -1
  worker
    | .away => 0
    | .published => 0
    | _ => -1
  calm := true
  blocking := false

def neverDroppedLaw : Law where
  weight
    | .drop => 1
    | _ => 0
  queued := 0
  callback
    | .refused => 1
    | _ => 0
  worker _ := 0
  calm := true
  blocking := true

def failedOnceLaw : Law where
  weight
    | .failure => 1
    | _ => 0
  queued := 0
  callback _ := 0
  worker
    | .failing => 0
    | .ended => 0
    | _ => 1
  calm := false
  blocking := false

def auxiliaryLaw : Law where
  weight
    | .auxiliary => 1
    | .publish => -1
    | _ => 0
  queued := 0
  callback _ := 0
  worker
    | .published => 1
    | _ => 0
  calm := false
  blocking := false

def imageLaw : Law where
  weight
    | .publish => 1
    | .auxiliary => -1
    | _ => 0
  queued := 0
  callback _ := 0
  worker
    | .away => 0
    | .holding => 0
    | _ => -1
  calm := true
  blocking := false

theorem countedLaw_sound : countedLaw.Sound cameraInfo := by
  cases cameraInfo <;> constructor <;> decide

theorem keptLaw_sound : keptLaw.Sound cameraInfo := by
  cases cameraInfo <;> constructor <;> decide

theorem neverDroppedLaw_sound : neverDroppedLaw.Sound cameraInfo := by
  cases cameraInfo <;> constructor <;> decide

theorem failedOnceLaw_sound : failedOnceLaw.Sound cameraInfo := by
  cases cameraInfo <;> constructor <;> decide

theorem auxiliaryLaw_sound : auxiliaryLaw.Sound cameraInfo := by
  cases cameraInfo <;> constructor <;> decide

theorem imageLaw_sound : imageLaw.Sound true := by
  constructor <;> decide

/-! ### The theorem -/

structure FrameAccounting [Fintype D] (cameraInfo : Bool) (c : CameraId) (s : Core D) : Prop where
  counted : (s.metrics c).publishCount.load.toNat + (s.metrics c).dropCount.load.toNat ≤
    (s.metrics c).sourceCount.load.toNat
  failedOnce : (s.metrics c).publishFailureCount.load.toNat ≤ 1
  kept : s.failed = false → s.stopRequested = false →
    (s.metrics c).sourceCount.load.toNat ≤ (s.metrics c).publishCount.load.toNat +
      (s.metrics c).dropCount.load.toNat + (s.config.queueCapacity + 1 + Fintype.card D)
  neverDropped : s.failed = false → s.stopRequested = false → s.config.dropNewest = false →
    (s.metrics c).dropCount.load = 0
  auxiliary : s.failed = false → s.stopRequested = false → cameraInfo = true →
    (s.metrics c).auxiliaryPublishCount.load.toNat ≤ (s.metrics c).publishCount.load.toNat ∧
      (s.metrics c).publishCount.load.toNat ≤ (s.metrics c).auxiliaryPublishCount.load.toNat + 1

section Accounting
variable [Fintype D] [DecidableEq D] {s : State D}

theorem publish_add_drop_le (h : (threads D cameraInfo).Reachable s)
    (henabled : s.shared.config.rateMetricsEnabled = true) :
    (s.shared.metrics c).publishCount.total + (s.shared.metrics c).dropCount.total ≤
      (s.shared.metrics c).sourceCount.total := by
  have hle := Law.bound (β := 0) (ω := 0) (c := c) countedLaw_sound
    (fun stage => by cases stage <;> decide) (fun stage => by cases stage <;> decide) h
    ⟨fun _ => henabled, nofun, nofun⟩
  simp only [Law.value, weigh, countedLaw, Tally.total] at hle
  omega

theorem failure_le_one (h : (threads D cameraInfo).Reachable s)
    (henabled : s.shared.config.rateMetricsEnabled = true) :
    (s.shared.metrics c).publishFailureCount.total ≤ 1 := by
  have hle := Law.bound (β := 0) (ω := 0) (c := c) failedOnceLaw_sound
    (fun stage => by cases stage <;> decide) (fun stage => by cases stage <;> decide) h
    ⟨fun _ => henabled, nofun, nofun⟩
  simp only [Law.value, weigh, failedOnceLaw, Tally.total] at hle
  omega

theorem auxiliary_le_publish (h : (threads D cameraInfo).Reachable s)
    (henabled : s.shared.config.rateMetricsEnabled = true) :
    (s.shared.metrics c).auxiliaryPublishCount.total ≤ (s.shared.metrics c).publishCount.total := by
  have hle := Law.bound (β := 0) (ω := 0) (c := c) auxiliaryLaw_sound
    (fun stage => by cases stage <;> decide) (fun stage => by cases stage <;> decide) h
    ⟨fun _ => henabled, nofun, nofun⟩
  simp only [Law.value, weigh, auxiliaryLaw, Tally.total] at hle
  omega

theorem source_le (h : (threads D cameraInfo).Reachable s)
    (henabled : s.shared.config.rateMetricsEnabled = true)
    (hcalm : s.shared.failed = false ∧ s.shared.stopRequested = false) :
    (s.shared.metrics c).sourceCount.total ≤ (s.shared.metrics c).publishCount.total +
      (s.shared.metrics c).dropCount.total +
        (s.shared.config.queueCapacity + 1 + Fintype.card D) := by
  have hlength : (jobsOf (s.shared.queues c)).length ≤ s.shared.config.queueCapacity := by
    cases hq : s.shared.queues c with
    | none => exact Nat.zero_le _
    | some q =>
      have hok := (reachable_routed h).1 c q hq
      exact hok.capacity ▸ hok.length
  have hle := Law.bound (β := -1) (ω := -1) (c := c) keptLaw_sound
    (fun stage => by cases stage <;> decide) (fun stage => by cases stage <;> decide) h
    ⟨fun _ => henabled, fun _ => hcalm, nofun⟩
  simp only [Law.value, weigh, keptLaw, Tally.total] at hle
  omega

theorem drop_eq_zero (h : (threads D cameraInfo).Reachable s)
    (henabled : s.shared.config.rateMetricsEnabled = true)
    (hcalm : s.shared.failed = false ∧ s.shared.stopRequested = false)
    (hblocking : s.shared.config.dropNewest = false) :
    (s.shared.metrics c).dropCount.total = 0 := by
  have hle := Law.bound (β := 0) (ω := 0) (c := c) neverDroppedLaw_sound
    (fun stage => by cases stage <;> decide) (fun stage => by cases stage <;> decide) h
    ⟨fun _ => henabled, fun _ => hcalm, fun _ _ => hblocking⟩
  simp only [Law.value, weigh, neverDroppedLaw, Tally.total] at hle
  omega

theorem publish_le_auxiliary (h : (threads D true).Reachable s)
    (henabled : s.shared.config.rateMetricsEnabled = true)
    (hcalm : s.shared.failed = false ∧ s.shared.stopRequested = false) :
    (s.shared.metrics c).publishCount.total ≤
      (s.shared.metrics c).auxiliaryPublishCount.total + 1 := by
  have hle := Law.bound (β := 0) (ω := -1) (c := c) imageLaw_sound
    (fun stage => by cases stage <;> decide) (fun stage => by cases stage <;> decide) h
    ⟨fun _ => henabled, fun _ => hcalm, nofun⟩
  simp only [Law.value, weigh, imageLaw, Tally.total] at hle
  omega

theorem accounting_of_bound (h : (threads D cameraInfo).Reachable s)
    (henabled : s.shared.config.rateMetricsEnabled = true)
    (hbound : (s.shared.metrics c).sourceCount.total < 2 ^ 64) :
    FrameAccounting cameraInfo c s.shared := by
  have hcounted := publish_add_drop_le (c := c) h henabled
  have hfailure := failure_le_one (c := c) h henabled
  have hauxiliary := auxiliary_le_publish (c := c) h henabled
  have hsource := Counter.toNat_load _ hbound
  have hpublish : (s.shared.metrics c).publishCount.load.toNat = _ :=
    Counter.toNat_load _ (by omega)
  have hdrop : (s.shared.metrics c).dropCount.load.toNat = _ := Counter.toNat_load _ (by omega)
  have hfailed : (s.shared.metrics c).publishFailureCount.load.toNat = _ :=
    Counter.toNat_load _ (by omega)
  have hinfo : (s.shared.metrics c).auxiliaryPublishCount.load.toNat = _ :=
    Counter.toNat_load _ (by omega)
  constructor
  case counted => rwa [hsource, hpublish, hdrop]
  case failedOnce => rwa [hfailed]
  case kept =>
    intro hcalm hstop
    rw [hsource, hpublish, hdrop]
    exact source_le h henabled ⟨hcalm, hstop⟩
  case neverDropped =>
    intro hcalm hstop hblocking
    rw [Counter.load, drop_eq_zero h henabled ⟨hcalm, hstop⟩ hblocking]
    rfl
  case auxiliary =>
    rintro hcalm hstop rfl
    rw [hinfo, hpublish]
    exact ⟨hauxiliary, publish_le_auxiliary h henabled ⟨hcalm, hstop⟩⟩

/-- The counters read as they are, as long as the one that all others stay below does not wrap
around; those that stay small need no bound. With one thread that runs callbacks, at most
`queue_capacity + 2` frames are out. -/
structure Accounted (cameraInfo : Bool) (c : CameraId) (s : Core D) : Prop where
  unwrapped : (s.metrics c).sourceCount.total < 2 ^ 64 → FrameAccounting cameraInfo c s
  failedOnce : (s.metrics c).publishFailureCount.load.toNat ≤ 1
  neverDropped : s.failed = false → s.stopRequested = false → s.config.dropNewest = false →
    (s.metrics c).dropCount.load = 0

theorem frame_accounting (h : (threads D cameraInfo).Reachable s)
    (henabled : s.shared.config.rateMetricsEnabled = true) : Accounted cameraInfo c s.shared where
  unwrapped := accounting_of_bound h henabled
  failedOnce := by
    have hfailure := failure_le_one (c := c) h henabled
    rwa [Counter.toNat_load _ (hfailure.trans_lt (by decide))]
  neverDropped hcalm hstop hblocking := by
    rw [Counter.load, drop_eq_zero h henabled ⟨hcalm, hstop⟩ hblocking]
    rfl

end Accounting

/-! ### Runs -/

def countedRun : List (Σ i : Thread Unit, Act i) :=
  startRun rateConfig ++ countFrame 7 9 ++ countFrame 8 10

def countedEnd : State Unit :=
  ((threads Unit false).toSystem.run countedRun (threads Unit false).toSystem.start).get rfl

theorem frame_accounting_counted : (countedEnd.shared.metrics 0).sourceCount.total = 2 ∧
    FrameAccounting false 0 countedEnd.shared :=
  ⟨by decide, (frame_accounting (System.reachable_get _) (by decide)).unwrapped (by decide)⟩

def droppingConfig : CameraCoreConfig := { rateConfig with dropNewest := true }

def fullQueue : FrameQueue := ⟨2, true, [⟨some 7, sampleInfo⟩, ⟨some 7, sampleInfo⟩], false⟩

def dropFrame : List (Σ i : Thread Unit, Act i) :=
  dispatcherDoes () [.callback (some (sampleSet 7)), .step, .step, .info statusOk sampleInfo 9,
    .step, .step, .step, .retained statusOk, .step, .step, .step, .step, .step]

def saturate (s : State Unit) : State Unit where
  shared := { s.shared with
    config := droppingConfig
    accepting := true
    queues := Function.update s.shared.queues 0 (some fullQueue) }
  locals := Function.update s.locals (.dispatcher ()) (Code.of CallbackPc.idle)

structure Saturated (s : State Unit) (n : Nat) : Prop where
  same : saturate s = s
  source : (s.shared.metrics 0).sourceCount.total = n + 2
  drop : (s.shared.metrics 0).dropCount.total = n

theorem saturate_eq {s : State Unit} (hconfig : s.shared.config = droppingConfig)
    (haccepting : s.shared.accepting = true) (hqueue : s.shared.queues 0 = some fullQueue)
    (hidle : s.locals (.dispatcher ()) = Code.of CallbackPc.idle) : saturate s = s := by
  rw [saturate, ← hconfig, ← haccepting, ← hqueue, ← hidle, Function.update_eq_self,
    Function.update_eq_self]

theorem dropFrame_run (s : State Unit) : ∃ t,
    (threads Unit false).toSystem.run dropFrame (saturate s) = some t ∧ saturate t = t ∧
      t.shared.metrics 0 = [Access.setFirst 9, .addSource, .lockedSource 1 5, .addDrop].foldl
        (fun m a => (a.exec false m).1) (s.shared.metrics 0) := by
  have hrun : ((threads Unit false).toSystem.run dropFrame (saturate s)).isSome = true := by
    with_unfolding_all rfl
  refine ⟨Option.get _ hrun, (Option.some_get hrun).symm, saturate_eq ?_ ?_ ?_ ?_, ?_⟩
  all_goals with_unfolding_all rfl

theorem Saturated.dropFrame {s : State Unit} {n : Nat} (hs : (threads Unit false).Reachable s)
    (h : Saturated s n) : ∃ t, (threads Unit false).Reachable t ∧ Saturated t (n + 1) := by
  obtain ⟨t, hrun, hsame, hmetrics⟩ := dropFrame_run s
  rw [h.same] at hrun
  have htotal : ∀ tally : Tally, tally.total (t.shared.metrics 0) =
      tally.total (s.shared.metrics 0) +
        [Access.setFirst 9, .addSource, .lockedSource 1 5, .addDrop].count tally.access := by
    intro tally
    rw [hmetrics]
    simp only [List.foldl_cons, List.foldl_nil, total_exec]
    cases tally <;> rfl
  have hsource : (t.shared.metrics 0).sourceCount.total =
      (s.shared.metrics 0).sourceCount.total + 1 := htotal .source
  have hdrop : (t.shared.metrics 0).dropCount.total = (s.shared.metrics 0).dropCount.total + 1 :=
    htotal .drop
  exact ⟨t, (System.later_of_run hrun).reachable hs, hsame, by rw [hsource, h.source], by
    rw [hdrop, h.drop]⟩

def fullRun : List (Σ i : Thread Unit, Act i) :=
  startRun droppingConfig ++ countFrame 7 9 ++ countFrame 7 9

def fullEnd : State Unit :=
  ((threads Unit false).toSystem.run fullRun (threads Unit false).toSystem.start).get rfl

theorem exists_saturated (n : Nat) :
    ∃ s, (threads Unit false).Reachable s ∧ Saturated s n := by
  induction n with
  | zero => exact ⟨fullEnd, System.reachable_get _, saturate_eq rfl rfl rfl rfl, rfl, rfl⟩
  | succ n ih =>
    obtain ⟨s, hs, hsaturated⟩ := ih
    exact hsaturated.dropFrame hs

/-- The count of the frames wraps around before the counts that it bounds do. -/
theorem source_wraps : ¬ ∀ s : State Unit, (threads Unit false).Reachable s →
    s.shared.config.rateMetricsEnabled = true → FrameAccounting false 0 s.shared := by
  intro hall
  obtain ⟨s, hs, hsaturated⟩ := exists_saturated (2 ^ 64 - 2)
  have henabled : s.shared.config.rateMetricsEnabled = true := by
    rw [← hsaturated.same]
    rfl
  have hcounted := (hall s hs henabled).counted
  have hsource : (s.shared.metrics 0).sourceCount.load = 0 := by
    rw [Counter.load, hsaturated.source]
    rfl
  have hdrop : (s.shared.metrics 0).dropCount.load.toNat = 2 ^ 64 - 2 := by
    rw [Counter.toNat_load _ (by rw [hsaturated.drop]; omega), hsaturated.drop]
  rw [hsource, hdrop] at hcounted
  have hzero : (0 : UInt64).toNat = 0 := rfl
  omega

end RoboBaton.Camera
