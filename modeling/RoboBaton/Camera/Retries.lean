import RoboBaton.Camera.RateLog
import RoboBaton.Camera.Laws
import RoboBaton.Metrics.Retries

/-! Only its worker raises the maximal latency of a camera, so the retry loop of a worker finds
the value that it expects. -/

namespace RoboBaton.Camera
open Metrics Transition
variable {D : Type} {cameraInfo : Bool} {s s' : Core D}

/-! ### The accesses to one camera -/

def CommonOp.accessTo (c : CameraId) : CommonOp → Option Access
  | .access c' a => if c' = c then some a else none
  | _ => none

def accesses (c : CameraId) (ops : List CommonOp) : List Access := ops.filterMap (·.accessTo c)

theorem mem_accesses {c : CameraId} {ops : List CommonOp} {a : Access} :
    a ∈ accesses c ops ↔ .access c a ∈ ops := by
  simp only [accesses, List.mem_filterMap]
  constructor
  · rintro ⟨op, hop, ha⟩
    cases op with
    | access c' b =>
      obtain ⟨rfl, rfl⟩ : c' = c ∧ b = a := by simpa [CommonOp.accessTo] using ha
      exact hop
    | _ => cases ha
  · exact fun h => ⟨_, h, by simp [CommonOp.accessTo]⟩

theorem accesses_append (c : CameraId) (ops ops' : List CommonOp) :
    accesses c (ops ++ ops') = accesses c ops ++ accesses c ops' := List.filterMap_append

theorem accesses_map (c : CameraId) (as : List Access) : accesses c (as.map (.access c)) = as := by
  induction as with
  | nil => rfl
  | cons a as ih =>
    rw [List.map_cons, accesses, List.filterMap_cons_some (b := a) (by simp [CommonOp.accessTo])]
    exact congrArg (a :: ·) ih

def Spares (c : CameraId) (ops : List CommonOp) : Prop :=
  ∀ a, .access c a ∈ ops → a.retries = false

theorem spares_record {c c' : CameraId} {as : List Access} (h : c' = c → ∀ a ∈ as, a.retries = false) :
    Spares c (record s c' as) := by
  intro a ha
  unfold record at ha
  split at ha
  · obtain ⟨b, hb, hab⟩ := List.mem_map.mp ha
    obtain ⟨hc, rfl⟩ := CommonOp.access.inj hab
    exact h hc b hb
  · cases ha

theorem spares_of_no_access {c : CameraId} {ops : List CommonOp} (h : ∀ a, .access c a ∉ ops) :
    Spares c ops := fun a ha => absurd ha (h a)

theorem Spares.exec {c : CameraId} {op : CommonOp} {ops : List CommonOp} (h : Spares c (op :: ops))
    (spurious : Bool) (s : Core D) : Spares c ((op.exec spurious s).2 ++ ops) := by
  intro a ha
  rcases List.mem_append.mp ha with ha | ha
  · cases op with
    | access c' b =>
      obtain ⟨a', ha', heq⟩ := List.mem_map.mp ha
      obtain ⟨rfl, rfl⟩ := CommonOp.access.inj heq
      obtain hnone | ⟨hretries, -⟩ := exec_inserts spurious (s.metrics c') b
      · rw [hnone] at ha'
        cases ha'
      · exact absurd (hretries.symm.trans (h b List.mem_cons_self)) (by simp)
    | _ => exact absurd ha ((common_metrics spurious s (by simp)).2 c a)
  · exact h a (List.mem_cons_of_mem _ ha)

/-! ### The worker of the camera -/

theorem steady_record (m : Metrics) (c c' : CameraId) {as : List Access}
    (h : ∀ a ∈ as, ∀ m', a.Fresh m') : Steady m (accesses c (record s c' as)) := by
  refine steady_of_not_raise fun a ha => ?_
  rw [mem_accesses, record] at ha
  split at ha
  · obtain ⟨b, hb, hab⟩ := List.mem_map.mp ha
    obtain ⟨-, rfl⟩ := CommonOp.access.inj hab
    exact h b hb
  · cases ha

theorem steady_exec {c : CameraId} {op : CommonOp} {ops : List CommonOp} (spurious : Bool)
    (h : Steady (s.metrics c) (accesses c (op :: ops))) (hother : ∀ c', c' ≠ c → Spares c' (op :: ops)) :
    Steady ((op.exec spurious s).1.metrics c) (accesses c ((op.exec spurious s).2 ++ ops)) := by
  cases op with
  | access c' a =>
    by_cases hc : c' = c
    · subst hc
      have hhead : accesses c' (.access c' a :: ops) = a :: accesses c' ops := by
        simp [accesses, CommonOp.accessTo]
      rw [hhead] at h
      simp only [CommonOp.exec, accesses_append, accesses_map, Function.update_self]
      exact h.exec spurious
    · have hnone : (a.exec spurious (s.metrics c')).2 = [] :=
        (exec_inserts spurious (s.metrics c') a).resolve_right fun hi =>
          absurd (hi.1.symm.trans (hother c' hc a List.mem_cons_self)) (by simp)
      have htail : accesses c (.access c' a :: ops) = accesses c ops := by
        simp [accesses, CommonOp.accessTo, hc]
      simp only [CommonOp.exec, hnone, List.map_nil, List.nil_append,
        Function.update_of_ne (Ne.symm hc)]
      exact htail ▸ h
  -- no access is inserted, and no counter changes
  | exchangeStop =>
    have : accesses c ((CommonOp.exchangeStop.exec spurious s).2 ++ ops) = accesses c ops := by
      rw [accesses_append]
      simp only [CommonOp.exec]
      split <;> rfl
    rw [this]
    exact h
  | exchangeFailed =>
    have : accesses c ((CommonOp.exchangeFailed.exec spurious s).2 ++ ops) = accesses c ops := by
      rw [accesses_append]
      simp only [CommonOp.exec]
      split <;> rfl
    rw [this]
    exact h
  | _ => exact h

def MaxOk (s : Core D) : ∀ i : Thread D, Local i → Prop
  | .owner, _ => True
  | .dispatcher _, (l : Code CallbackPc) => ∀ c, Spares c l.pending
  | .worker c, (l : Code WorkerPc) =>
    Steady (s.metrics c) (accesses c l.pending) ∧ ∀ c', c' ≠ c → Spares c' l.pending

theorem spares_failure (c : CameraId) : Spares c callbackFailure.pending ∧
    Spares c workerFailure.pending := by
  constructor <;> exact spares_of_no_access (by
    simp [callbackFailure, workerFailure, closeAdmissionAndRequestStop, recordFailure])

theorem callback_maxOk [DecidableEq D] {d : D} {l l' : Code CallbackPc}
    (h : CallbackStep d s l s' l') (hl : ∀ c, Spares c l.pending) (c : CameraId) :
    Spares c l'.pending := by
  cases h with
  | common spurious op ops pc => exact (hl c).exec spurious s
  | throwHeader | throwItem | throwRetain | unwind => exact (spares_failure c).1
  | info scan c' frame status info nowNs =>
    refine spares_record fun _ a ha => ?_
    simp only [recordSource, setFirstMonotonic] at ha
    split at ha <;> simp only [List.nil_append, List.cons_append, List.mem_cons, List.not_mem_nil,
      or_false] at ha <;> rcases ha with rfl | rfl | rfl <;> rfl
  | dropped scan c' job =>
    exact spares_record fun _ a ha => by rw [List.mem_singleton.mp ha]; rfl
  | _ => exact nofun

theorem worker_maxOk {c : CameraId} {l l' : Code WorkerPc} (h : WorkerStep cameraInfo c s l s' l')
    (hrouted : WorkerRouted c l) (hl : MaxOk s (.worker c) l) : MaxOk s' (.worker c) l' := by
  obtain ⟨hsteady, hother⟩ := hl
  -- the record functions of a job are those of this camera
  have hrecord : ∀ {t : Core D} {job : RetainedFrameJob} {as : List Access}, job ∈ l.pc.jobs →
      (∀ a ∈ as, ∀ m', a.Fresh m') →
      Steady (t.metrics c) (accesses c (recordJob s job as)) ∧
        ∀ c', c' ≠ c → Spares c' (recordJob s job as) := by
    intro t job as hjob has
    rw [recordJob_of_routed (hrouted job hjob)]
    exact ⟨steady_record _ c c has, fun c' hc => spares_record fun hcc => absurd hcc.symm hc⟩
  have hnone : ∀ {t : Core D}, Steady (t.metrics c) (accesses c []) ∧
      ∀ c', c' ≠ c → Spares c' [] := ⟨steady_nil _, fun _ _ => nofun⟩
  cases h with
  | common spurious op ops pc =>
    exact ⟨steady_exec spurious hsteady hother, fun c' hc => (hother c' hc).exec spurious s⟩
  | published job latencyNs =>
    exact hrecord (by simp [Code.of, WorkerPc.jobs]) (by simp [recordPublishSuccess, Access.Fresh])
  | throwImage job =>
    exact hrecord (by simp [Code.of, WorkerPc.jobs]) (by simp [recordPublishFailure, Access.Fresh])
  | throwInfo job =>
    exact hrecord (by simp [Code.of, WorkerPc.jobs]) (by simp [recordPublishFailure, Access.Fresh])
  | publishedInfo job =>
    by_cases hinfo : cameraInfo = true
    · simp only [MaxOk, hinfo, if_true]
      exact hrecord (by simp [Code.of, WorkerPc.jobs])
        (by simp [recordAuxiliaryPublishSuccess, Access.Fresh])
    · simp only [MaxOk, if_neg hinfo]
      exact hnone
  | unwind job =>
    refine ⟨?_, fun c' _ => (spares_failure c').2⟩
    refine steady_of_not_raise fun a ha m' => fresh_of_not_retries ?_
    exact (spares_failure c).2 a (mem_accesses.mp ha)
  | _ => exact hnone

theorem latencyMax_step [Fintype D] [DecidableEq D] {s : State D}
    (hs : (threads D cameraInfo).Reachable s) {i : Thread D} {a : Act i} {l' : Local i}
    {t : Core D} (hst : (threads D cameraInfo).step i a s.shared (s.locals i) = some (t, l'))
    (hl : MaxOk s.shared i (s.locals i)) {c : CameraId} (hi : i ≠ .worker c) :
    (t.metrics c).publishLatencyMaxNs = (s.shared.metrics c).publishLatencyMaxNs := by
  obtain hm | ⟨spurious, c', b, rest, hops, hm⟩ := threads_touches hst
  · rw [hm]
  have hb : .access c' b ∈ code i (s.locals i) := hops ▸ List.mem_cons_self
  rw [hm]
  by_cases hc : c' = c
  · subst hc
    rw [Function.update_self]
    refine latencyMax_exec spurious _ ?_
    cases i with
    | owner =>
      obtain ⟨op, hop, heq⟩ := List.mem_filterMap.mp hb
      cases op with
      | common o =>
        obtain rfl := Option.some.inj heq
        exact absurd hop ((reachable_ops hs).metrics c' b)
      | _ => cases heq
    | dispatcher d => exact hl c' b hb
    | worker c'' => exact hl.2 c' (fun heq => hi (heq ▸ rfl)) b hb
  · rw [Function.update_of_ne (Ne.symm hc)]

theorem reachable_maxOk [Fintype D] [DecidableEq D] {s : State D}
    (h : (threads D cameraInfo).Reachable s) (i : Thread D) : MaxOk s.shared i (s.locals i) := by
  refine (Threads.Reachable.outline (T := threads D cameraInfo) (I := fun _ => True)
    (J := fun i s l => MaxOk s i l) ⟨trivial, ?_⟩ ?_ ?_ h).2 i
  · rintro (_ | d | c)
    · trivial
    · exact fun _ => nofun
    · exact ⟨steady_nil _, fun _ _ => nofun⟩
  · intro s i a t l' hs _ hJ hst
    refine ⟨trivial, ?_⟩
    cases i with
    | owner => trivial
    | dispatcher d => exact callback_maxOk (frameSetTrampoline_step hst) hJ
    | worker c =>
      exact worker_maxOk (workerLoop_step hst).2 ((reachable_routed hs).2 (.worker c)) hJ
  · intro s i a t l' hs _ hJ hst j hj hother
    cases j with
    | owner => trivial
    | dispatcher d => exact hother
    | worker c =>
      exact ⟨hother.1.congr (latencyMax_step hs hst hJ hj.symm), hother.2⟩

end RoboBaton.Camera
