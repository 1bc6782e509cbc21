import RoboBaton.Camera.FrameSets
import RoboBaton.Camera.Routing
import RoboBaton.Camera.References
import RoboBaton.Camera.Balance

/-! The frames of a camera on their way from the frame sets to its worker: in order, and none
is lost unless its queue was full. -/

namespace RoboBaton.Camera
open Trace Discipline Transition
variable {D : Type} {cameraInfo : Bool} {s s' : Core D} {c : CameraId}

/-- Nothing has failed, and no stop was requested. -/
def Calm (s : Core D) : Prop := s.incidents = [] ∧ s.stopRequested = false

theorem Onward.calm (h : Onward s s') (hcalm : Calm s') : Calm s := by
  constructor
  · exact List.prefix_nil.mp (hcalm.1 ▸ h.incidents)
  · exact Bool.eq_false_iff.mpr fun hs => absurd ((h.stopRequested hs).symm.trans hcalm.2) (by decide)

theorem not_calm_incident (s : Core D) (i : Incident D) : ¬ Calm (s.incident i) :=
  fun h => absurd h.1 (by simp [Core.incident])

/-! ### What reached the queue -/

def admittedJobs (s : Core D) (c : CameraId) : List RetainedFrameJob :=
  ((s.arrivals c).filter fun a => a.outcome = .admitted).map Arrival.job

structure QueueLog (s : Core D) (c : CameraId) : Prop where
  owned : ∀ a ∈ s.arrivals c, a.job.ownsFrame = true
  outcomes : ∀ a ∈ s.arrivals c, a.outcome = .admitted ∨
    a.outcome = .full ∧ s.config.dropNewest = true ∧ a.queued = s.config.queueCapacity
  admitted : admittedJobs s c = s.popped c ++ jobsOf (s.queues c)

theorem QueueLog.congr (h : QueueLog s c) (hconfig : s'.config = s.config)
    (harrivals : s'.arrivals c = s.arrivals c)
    (hadmitted : s'.popped c ++ jobsOf (s'.queues c) = s.popped c ++ jobsOf (s.queues c)) :
    QueueLog s' c where
  owned := by
    rw [harrivals]
    exact h.owned
  outcomes := by
    rw [harrivals, hconfig]
    exact h.outcomes
  admitted := by
    rw [admittedJobs, harrivals, hadmitted]
    exact h.admitted

theorem QueueLog.arrive (job : RetainedFrameJob) {outcome : Outcome} {queued : Nat}
    (h : QueueLog s c) (howned : job.ownsFrame = true)
    (houtcome : outcome = .admitted ∨
      outcome = .full ∧ s.config.dropNewest = true ∧ queued = s.config.queueCapacity)
    (hconfig : s'.config = s.config)
    (harrivals : s'.arrivals c = s.arrivals c ++ [⟨job, outcome, queued⟩])
    (hadmitted : s'.popped c ++ jobsOf (s'.queues c) = s.popped c ++ jobsOf (s.queues c) ++
      if outcome = .admitted then [job] else []) : QueueLog s' c where
  owned a ha := by
    rw [harrivals] at ha
    rcases List.mem_append.mp ha with ha | ha
    · exact h.owned a ha
    · rwa [List.mem_singleton.mp ha]
  outcomes a ha := by
    rw [harrivals] at ha
    rw [hconfig]
    rcases List.mem_append.mp ha with ha | ha
    · exact h.outcomes a ha
    · rwa [List.mem_singleton.mp ha]
  admitted := by
    rw [hadmitted, ← h.admitted, admittedJobs, harrivals, List.filter_append, List.map_append]
    cases outcome <;> rfl

structure Fresh (s : Core D) : Prop where
  sets : s.sets = []
  completed : s.completed = []
  arrivals : ∀ c, s.arrivals c = []
  popped : ∀ c, s.popped c = []

structure History (s : Core D) : Prop where
  fresh : s.admissionOpened = false → Fresh s
  complete : ∀ r ∈ s.completed, CompleteSet s.config r
  queues : Calm s → ∀ c, QueueLog s c

structure Unseen (s s' : Core D) : Prop where
  config : s'.config = s.config
  opened : s.admissionOpened = true → s'.admissionOpened = true
  sets : s'.sets = s.sets
  completed : s'.completed = s.completed
  arrivals : s'.arrivals = s.arrivals
  popped : s'.popped = s.popped
  queues : ∀ c, jobsOf (s'.queues c) = jobsOf (s.queues c)
  calm : Calm s' → Calm s

theorem History.congr (h : History s) (hs : Unseen s s') : History s' where
  fresh hclosed := by
    have hclosed' : s.admissionOpened = false :=
      Bool.eq_false_iff.mpr fun ho => absurd (hclosed.symm.trans (hs.opened ho)) (by decide)
    obtain ⟨hsets, hcompleted, harrivals, hpopped⟩ := h.fresh hclosed'
    exact ⟨hs.sets.trans hsets, hs.completed.trans hcompleted, hs.arrivals ▸ harrivals,
      hs.popped ▸ hpopped⟩
  complete := by
    rw [hs.completed, hs.config]
    exact h.complete
  queues hcalm c :=
    (h.queues (hs.calm hcalm) c).congr hs.config (by rw [hs.arrivals])
      (by rw [hs.popped, hs.queues c])

theorem unseen_common (spurious : Bool) (s : Core D) (op : CommonOp) :
    Unseen s (op.exec spurious s).1 := by
  have hjobs := (common_jobs spurious s op).2.2
  have hcalm := (onward_common spurious s op).calm
  cases op <;> exact ⟨rfl, id, rfl, rfl, rfl, rfl, hjobs, hcalm⟩

theorem Quiet.unseen (h : Quiet s s') : Unseen s s' :=
  ⟨h.config, h.admissionOpened.trans, h.sets, h.completed, h.arrivals, h.popped,
    fun c => by rw [h.queues], h.onward.calm⟩

/-! ### One step of a callback -/

def CallbackScans (config : CameraCoreConfig) (l : Code CallbackPc) : Prop :=
  match l.pc with
  | .item scan => ScanOk config scan
  | .retain scan c frame _ => ScanOk config (scan.take c frame).next
  | .push scan c job =>
    ScanOk config scan.next ∧ ∃ frame, job.frame = some frame ∧ (c, frame) ∈ scan.retained
  | .rejected scan _ _ => ScanOk config scan
  | _ => True

theorem Outside.scans {config : CameraCoreConfig} {l : Code CallbackPc} (h : Outside l) :
    CallbackScans config l := by
  rcases h with rfl | ⟨set, rfl⟩ | rfl <;> trivial

section Callback
variable [DecidableEq D] {d : D} {l l' : Code CallbackPc}

theorem callback_scans (hl : CallbackScans s.config l) (h : CallbackStep d s l s' l') :
    CallbackScans s'.config l' := by
  cases h with
  | common spurious op ops pc =>
    rw [(unseen_common spurious s op).config]
    exact hl
  | header set hheader => exact .start hheader
  | info scan c frame status info nowNs hindex hcheck hinfo => exact ScanOk.next hl hindex hcheck
  | retain scan c frame info => exact ⟨hl, frame, rfl, by simp [Scan.take]⟩
  | pushed scan c job q q' hq hp => exact hl.1
  | rejected scan c job q outcome hq hp => exact hl.1
  | dropped scan c job => exact hl
  | _ => trivial

theorem callback_history (hL : Ledger s) (hQ : QueuesOk s) (hH : History s)
    (hok : CallbackOk s d l) (hl : CallbackScans s.config l) (h : CallbackStep d s l s' l') :
    History s' := by
  have hcalm : Calm s' → Calm s := (callback_onward h).calm
  have hopened : ¬ Outside l → s.admissionOpened = false → Fresh s' := fun hin hclosed =>
    absurd (hclosed.symm.trans (hok.inside.resolve_left hin)) (by decide)
  cases h with
  | common spurious op ops pc => exact hH.congr (unseen_common spurious s op)
  | header set hheader =>
    refine ⟨hopened (by simp [Outside, Code.of]), hH.complete, fun hcalm' c => ?_⟩
    exact (hH.queues (hcalm hcalm') c).congr rfl rfl rfl
  | complete scan hend =>
    refine ⟨hopened (by simp [Outside, Code.of]), fun r hr => ?_, fun hcalm' c => ?_⟩
    · rcases List.mem_append.mp hr with hr | hr
      · exact hH.complete r hr
      · exact List.mem_singleton.mp hr ▸ (ScanOk.complete hl hend).2
    · exact (hH.queues (hcalm hcalm') c).congr rfl rfl rfl
  | pushed scan c job q q' hq hp =>
    obtain ⟨-, -, rfl⟩ := FrameQueue.push_eq_pushed.mp hp
    obtain ⟨-, frame, hframe, -⟩ := hl
    refine ⟨hopened (by simp [Outside, Code.of]), hH.complete, fun hcalm' c' => ?_⟩
    have hlog := hH.queues (hcalm hcalm') c'
    by_cases hc : c' = c
    · subst hc
      refine hlog.arrive job (by simp [RetainedFrameJob.ownsFrame, hframe]) (.inl rfl) rfl
        (Function.update_self ..) ?_
      show s.popped c' ++ jobsOf (Function.update s.queues c' _ c') = _
      rw [Function.update_self, hq, if_pos rfl, List.append_assoc]
      rfl
    · refine hlog.congr rfl (Function.update_of_ne hc ..) ?_
      show s.popped c' ++ jobsOf (Function.update s.queues c _ c') = _
      rw [Function.update_of_ne hc]
  | rejected scan c job q outcome hq hp =>
    obtain ⟨-, frame, hframe, -⟩ := hl
    refine ⟨hopened (by simp [Outside, Code.of]), hH.complete, fun hcalm' c' => ?_⟩
    have hlog := hH.queues (hcalm hcalm') c'
    by_cases hc : c' = c
    · subst hc
      obtain ⟨hstopped, -⟩ | ⟨-, hdrop, hfull, rfl⟩ := FrameQueue.push_eq_rejected.mp hp
      · -- a stopped queue rejects too, but only after a stop request
        exact absurd ((hL.stoppedQueue c' q hq hstopped).symm.trans hcalm'.2) (by decide)
      · -- rejected by a full queue under drop-newest
        obtain ⟨hcapacity, hdropNewest, hlength, -, -⟩ := hQ c' q hq
        refine hlog.arrive job (by simp [RetainedFrameJob.ownsFrame, hframe])
          (.inr ⟨rfl, hdropNewest.symm.trans hdrop, hcapacity ▸ le_antisymm hlength hfull⟩) rfl
          (Function.update_self ..) ?_
        exact (List.append_nil _).symm
    · exact hlog.congr rfl (Function.update_of_ne hc ..) rfl
  | leave failed => cases failed <;> exact hH.congr ⟨rfl, id, rfl, rfl, rfl, rfl, fun _ => rfl, hcalm⟩
  | _ => exact hH.congr ⟨rfl, id, rfl, rfl, rfl, rfl, fun _ => rfl, hcalm⟩

end Callback

theorem worker_history {l l' : Code WorkerPc} (hH : History s) (hopened : s.admissionOpened = true)
    (h : WorkerStep cameraInfo c s l s' l') : History s' := by
  have hcalm : Calm s' → Calm s := (worker_onward h).calm
  cases h with
  | common spurious op ops pc => exact hH.congr (unseen_common spurious s op)
  | popped q job q' hq hp =>
    obtain ⟨-, rest, hqueue, rfl⟩ := FrameQueue.pop_eq_popped.mp hp
    refine ⟨fun hclosed => absurd (hclosed.symm.trans hopened) (by decide), hH.complete, ?_⟩
    intro hcalm' c'
    refine (hH.queues (hcalm hcalm') c').congr rfl rfl ?_
    show Function.update s.popped c _ c' ++ jobsOf (Function.update s.queues c _ c') = _
    by_cases hc : c' = c
    · subst hc
      rw [Function.update_self, Function.update_self, hq, List.append_assoc]
      exact congrArg (s.popped c' ++ ·) hqueue.symm
    · rw [Function.update_of_ne hc, Function.update_of_ne hc]
  | finish failed => cases failed <;> exact hH.congr ⟨rfl, id, rfl, rfl, rfl, rfl, fun _ => rfl, hcalm⟩
  | _ => exact hH.congr ⟨rfl, id, rfl, rfl, rfl, rfl, fun _ => rfl, hcalm⟩

theorem owner_history {op : OwnerOp} {rest : List OwnerOp} {detached detached' : List RetainedFrameJob}
    (hL : Ledger s) (hsafe : rules.Safe (Holds s) (op :: rest)) (hH : History s)
    (h : OwnerEffect s detached op s' detached') : History s' := by
  have hcalm : Calm s' → Calm s := (owner_onward h).calm
  cases h with
  | quiet _ _ hq => exact hH.congr hq.unseen
  | common op => exact hH.congr (unseen_common false s op)
  | claim config sink notifier hclaimed =>
    have hunclaimed := hL.unclaimed hclaimed
    obtain ⟨hsets, hcompleted, harrivals, hpopped⟩ := hH.fresh hunclaimed.1
    refine ⟨fun _ => ⟨hsets, hcompleted, harrivals, hpopped⟩, ?_, fun _ c => ?_⟩
    · intro r hr
      rw [hcompleted] at hr
      cases hr
    · constructor
      case owned => simp [harrivals]
      case outcomes => simp [harrivals]
      case admitted => simp [admittedJobs, harrivals, hpopped, hunclaimed.2.2.2.1, jobsOf]
  | makeQueue c henabled =>
    have hnone : s.queues c = none := hsafe.1 (.noQueue c) (by simp)
    refine hH.congr ⟨rfl, id, rfl, rfl, rfl, rfl, fun c' => ?_, hcalm⟩
    show jobsOf (Function.update s.queues c _ c') = _
    by_cases hc : c' = c
    · subst hc
      rw [Function.update_self, hnone]
      rfl
    · rw [Function.update_of_ne hc]
  | openAdmission => exact hH.congr ⟨rfl, fun _ => rfl, rfl, rfl, rfl, rfl, fun _ => rfl, hcalm⟩
  | detach c q hq =>
    refine ⟨fun hclosed => ?_, hH.complete, fun hcalm' => ?_⟩
    · obtain ⟨hsets, hcompleted, harrivals, hpopped⟩ := hH.fresh hclosed
      exact ⟨hsets, hcompleted, harrivals, hpopped⟩
    -- queues are emptied after the stop request only
    have hstop : s.stopRequested = true := hsafe.1 (.done .exchangeStop) (by simp)
    exact absurd (hstop.symm.trans hcalm'.2) (by decide)
  | _ => exact hH.congr ⟨rfl, id, rfl, rfl, rfl, rfl, fun _ => rfl, hcalm⟩

def ThreadScans (s : Core D) : ∀ i : Thread D, Local i → Prop
  | .owner, _ => True
  | .dispatcher _, (l : Code CallbackPc) => CallbackScans s.config l
  | .worker _, _ => True

theorem reachable_history [Fintype D] [DecidableEq D] {s : State D}
    (h : (threads D cameraInfo).Reachable s) :
    History s.shared ∧ ∀ i, ThreadScans s.shared i (s.locals i) := by
  refine Threads.Reachable.outline (T := threads D cameraInfo) (I := History)
    (J := fun i s l => ThreadScans s i l) ⟨?_, ?_⟩ ?_ ?_ h
  · refine ⟨fun _ => ⟨rfl, rfl, fun _ => rfl, fun _ => rfl⟩, nofun, fun _ c => ?_⟩
    exact ⟨nofun, nofun, rfl⟩
  · rintro (_ | d | c) <;> trivial
  · intro s i a s' l' hs hI hJ hst
    obtain ⟨hL, hok⟩ := reachable_core hs
    cases i with
    | owner =>
      refine ⟨?_, trivial⟩
      obtain ⟨rfl, -⟩ | ⟨op, rest, hops, he⟩ := ownerStep_cases hst
      · exact hI
      · have hsafe := (hok .owner : OwnerOk s.shared (s.locals .owner)).safe
        rw [hops] at hsafe
        exact owner_history hL hsafe hI (exec_effect he)
    | dispatcher d =>
      have hstep := frameSetTrampoline_step hst
      exact ⟨callback_history hL (reachable_routed hs).1 hI (hok (.dispatcher d)) hJ hstep,
        callback_scans hJ hstep⟩
    | worker c =>
      obtain ⟨hrunning, hstep⟩ := workerLoop_step hst
      exact ⟨worker_history hI (hL.workers c (by simp [hrunning])) hstep, trivial⟩
  · intro s i a s' l' hs hI hJ hst j hj hother
    cases j with
    | owner => trivial
    | worker c => trivial
    | dispatcher d =>
      obtain ⟨hL, hok⟩ := reachable_core hs
      -- the configuration of a claimed core never changes
      obtain hout | hopened := (hok (.dispatcher d) : CallbackOk s.shared d _).inside
      · exact hout.scans
      · show CallbackScans s'.config _
        rw [((step_onward hst).claimed (hL.claimed hopened)).2]
        exact hother

/-! ### One callback at a time -/

def CallbackPc.handling : CallbackPc → List FrameSet
  | .item scan => [scan.set]
  | .retain scan .. => [scan.set]
  | .push scan .. => [scan.set]
  | .rejected scan .. => [scan.set]
  | _ => []

def CallbackPc.awaits (c : CameraId) : CallbackPc → List FrameSet
  | .item scan => if scan.seen c then [] else [scan.set]
  | .retain scan c' _ _ => if scan.seen c ∧ c ≠ c' then [] else [scan.set]
  | .push scan c' _ => if scan.seen c ∧ c ≠ c' then [] else [scan.set]
  | .rejected scan _ _ => if scan.seen c then [] else [scan.set]
  | _ => []

/-- Frame sets are gone through, and their frames pushed, in the order of their callbacks. -/
structure InOrder (s : Core D) (pc : CallbackPc) : Prop where
  completed : s.sets.map (FrameSet.frames s.config) =
    s.completed ++ pc.handling.map (FrameSet.frames s.config)
  arrivals : ∀ c, s.config.cameraEnabled c = true → s.sets.map (FrameSet.frameOf s.config c) =
    (s.arrivals c).map (fun a => a.job.frame) ++ (pc.awaits c).map (FrameSet.frameOf s.config c)

structure Idle (s s' : Core D) : Prop where
  sets : s'.sets = s.sets
  completed : s'.completed = s.completed
  arrivals : s'.arrivals = s.arrivals

theorem InOrder.congr {pc pc' : CallbackPc} (h : InOrder s pc) (hconfig : s'.config = s.config)
    (hs : Idle s s') (hhandling : pc'.handling = pc.handling)
    (hawaits : ∀ c, pc'.awaits c = pc.awaits c) : InOrder s' pc' where
  completed := by
    rw [hs.sets, hs.completed, hconfig, hhandling]
    exact h.completed
  arrivals c := by
    rw [hs.sets, hs.arrivals, hconfig, hawaits c]
    exact h.arrivals c

theorem worker_idle {l l' : Code WorkerPc} (h : WorkerStep cameraInfo c s l s' l') : Idle s s' := by
  cases h with
  | common spurious op =>
    have hs := unseen_common spurious s op
    exact ⟨hs.sets, hs.completed, hs.arrivals⟩
  | finish failed => cases failed <;> exact ⟨rfl, rfl, rfl⟩
  | _ => exact ⟨rfl, rfl, rfl⟩

theorem owner_idle {op : OwnerOp} {detached detached' : List RetainedFrameJob}
    (h : OwnerEffect s detached op s' detached') : Idle s s' := by
  cases h with
  | quiet _ _ hq => exact ⟨hq.sets, hq.completed, hq.arrivals⟩
  | common op =>
    have hs := unseen_common false s op
    exact ⟨hs.sets, hs.completed, hs.arrivals⟩
  | _ => exact ⟨rfl, rfl, rfl⟩

section Serial
variable {d : D} {scan : Scan} {job : RetainedFrameJob}

theorem InOrder.arrive {pc : CallbackPc} {outcome : Outcome} {queued : Nat}
    (h : InOrder s (.push scan c job))
    (hscan : ScanOk s.config scan.next ∧
      ∃ frame, job.frame = some frame ∧ (c, frame) ∈ scan.retained)
    (hhandling : pc.handling = [scan.set])
    (hawaits : ∀ c', pc.awaits c' = if scan.seen c' then [] else [scan.set]) :
    InOrder (s.arrive c job outcome queued) pc := by
  obtain ⟨hok, frame, hframe, hmem⟩ := hscan
  have hseen : scan.seen c = true := (hok.seen c).mpr (List.mem_map_of_mem hmem)
  have hof : scan.set.frameOf s.config c = some frame := hok.frameOf hmem
  constructor
  case completed =>
    rw [hhandling]
    exact h.completed
  case arrivals =>
    intro c' henabled
    have hbefore := h.arrivals c' henabled
    rw [hawaits c']
    show s.sets.map (FrameSet.frameOf s.config c') =
      (Function.update s.arrivals c (s.arrivals c ++ [⟨job, outcome, queued⟩]) c').map
          (fun a => a.job.frame) ++
        (if scan.seen c' then [] else [scan.set]).map (FrameSet.frameOf s.config c')
    by_cases hc : c' = c
    · subst hc
      rw [Function.update_self, hbefore, if_pos hseen]
      simp [CallbackPc.awaits, hof, hframe]
    · rw [Function.update_of_ne hc, hbefore]
      simp [CallbackPc.awaits, hc]

theorem callback_inOrder [DecidableEq D] {l l' : Code CallbackPc} (hl : CallbackScans s.config l)
    (hI : Calm s → InOrder s l.pc) (h : CallbackStep d s l s' l') (hcalm' : Calm s') :
    InOrder s' l'.pc := by
  have horder := hI ((callback_onward h).calm hcalm')
  cases h with
  | common spurious op ops pc =>
    have hs := unseen_common spurious s op
    exact horder.congr hs.config ⟨hs.sets, hs.completed, hs.arrivals⟩ rfl fun _ => rfl
  | header set hheader =>
    constructor
    case completed =>
      show (s.sets ++ [set]).map (FrameSet.frames s.config) = _
      rw [List.map_append, horder.completed, List.append_assoc]
      rfl
    case arrivals =>
      intro c henabled
      show (s.sets ++ [set]).map (FrameSet.frameOf s.config c) = _
      rw [List.map_append, horder.arrivals c henabled, List.append_assoc]
      rfl
  | complete scan hend =>
    constructor
    case completed =>
      -- the scan is through: what it has retained is the whole frame set
      show s.sets.map (FrameSet.frames s.config) = s.completed ++ [scan.retained] ++ []
      rw [horder.completed, (ScanOk.complete hl hend).1, List.append_nil]
      rfl
    case arrivals =>
      intro c henabled
      have hnone : (Code.of (CallbackPc.item scan)).pc.awaits c = [] :=
        if_pos (ScanOk.seen_of_complete hl hend henabled)
      have harrivals := horder.arrivals c henabled
      rwa [hnone] at harrivals
  | info scan c frame status info nowNs hindex hcheck hinfo =>
    refine horder.congr rfl ⟨rfl, rfl, rfl⟩ rfl fun c' => ?_
    show (if Function.update scan.seen c true c' = true ∧ c' ≠ c then [] else [scan.set]) =
      if scan.seen c' then [] else [scan.set]
    by_cases hc : c' = c
    · subst hc
      simp [(check_eq_some hcheck).1]
    · simp [hc]
  | pushed scan c job q q' hq hp =>
    exact (horder.arrive hl rfl fun _ => rfl).congr rfl ⟨rfl, rfl, rfl⟩ rfl fun _ => rfl
  | rejected scan c job q outcome hq hp => exact horder.arrive hl rfl fun _ => rfl
  | throwHeader set => exact absurd hcalm' (not_calm_incident s _)
  | throwItem scan => exact absurd hcalm' (not_calm_incident s _)
  | throwRetain scan c frame info => exact absurd hcalm' (not_calm_incident s _)
  | throwPush scan c job q q' hq hp => exact absurd hcalm' (not_calm_incident s _)
  | leave failed => cases failed <;> exact horder.congr rfl ⟨rfl, rfl, rfl⟩ rfl fun _ => rfl
  | _ => exact horder.congr rfl ⟨rfl, rfl, rfl⟩ rfl fun _ => rfl

end Serial

theorem Outside.inOrder {l : Code CallbackPc} (h : Outside l) (hfresh : Fresh s)
    (hs : Idle s s') : InOrder s' l.pc := by
  have hpc : l.pc.handling = [] ∧ ∀ c, l.pc.awaits c = [] := by
    rcases h with rfl | ⟨set, rfl⟩ | rfl <;> exact ⟨rfl, fun _ => rfl⟩
  constructor
  case completed => simp [hs.sets, hs.completed, hfresh.sets, hfresh.completed, hpc.1]
  case arrivals => simp [hs.sets, hs.arrivals, hfresh.sets, hfresh.arrivals, hpc.2]

theorem reachable_inOrder {s : State Unit} (h : (threads Unit cameraInfo).Reachable s) :
    Calm s.shared → InOrder s.shared (s.locals (.dispatcher ()) : Code CallbackPc).pc := by
  refine Threads.Reachable.focus (T := threads Unit cameraInfo) (i := .dispatcher ())
    (J := fun s (l : Code CallbackPc) => Calm s → InOrder s l.pc) ?_ ?_ ?_ h
  · exact fun _ => ⟨rfl, fun _ _ => rfl⟩
  · intro s a s' l' hs hJ hst
    exact callback_inOrder ((reachable_history hs).2 (.dispatcher ())) hJ
      (frameSetTrampoline_step hst)
  · intro s j a s' l' hj hs hJ hst hcalm'
    have hidle : Idle s.shared s' := by
      cases j with
      | owner =>
        obtain ⟨rfl, -⟩ | ⟨op, rest, -, he⟩ := ownerStep_cases hst
        · exact ⟨rfl, rfl, rfl⟩
        · exact owner_idle (exec_effect he)
      | dispatcher d => exact absurd rfl hj
      | worker c => exact worker_idle (workerLoop_step hst).2
    obtain ⟨hL, hok⟩ := reachable_core hs
    have honward := step_onward hst
    cases hopened : s.shared.admissionOpened with
    | true =>
      have hconfig := (honward.claimed (hL.claimed hopened)).2
      exact (hJ (honward.calm hcalm')).congr hconfig hidle rfl fun _ => rfl
    | false =>
      have hout : Outside (s.locals (.dispatcher ())) :=
        (hok (.dispatcher ()) : CallbackOk s.shared () _).inside.resolve_right (by simp [hopened])
      exact hout.inOrder ((reachable_history hs).1.fresh hopened) hidle

/-! ### The delivery -/

def cameraFrames (s : Core D) (c : CameraId) : List (Option Frame) :=
  s.sets.map (FrameSet.frameOf s.config c)

theorem awaits_length (c : CameraId) (pc : CallbackPc) : (pc.awaits c).length ≤ 1 := by
  have hone : ∀ (p : Prop) [Decidable p] (set : FrameSet),
      (if p then [] else [set]).length ≤ 1 := by
    intro p _ set
    split <;> simp
  cases pc <;> first | exact hone _ _ | exact Nat.zero_le _

theorem QueueLog.sublist (h : QueueLog s c) : ((s.popped c).map RetainedFrameJob.frame).Sublist
    ((s.arrivals c).map fun a => a.job.frame) := by
  have hadmitted : (s.popped c ++ jobsOf (s.queues c)).map RetainedFrameJob.frame =
      ((s.arrivals c).filter fun a => a.outcome = .admitted).map fun a => a.job.frame := by
    rw [← h.admitted, admittedJobs, List.map_map]
    rfl
  have hpopped := (List.sublist_append_left (s.popped c) (jobsOf (s.queues c))).map
    RetainedFrameJob.frame
  rw [hadmitted] at hpopped
  exact hpopped.trans (List.filter_sublist.map _)

theorem QueueLog.admitted_blocking (h : QueueLog s c) (hblocking : s.config.dropNewest = false) :
    admittedJobs s c = (s.arrivals c).map Arrival.job := by
  refine congrArg (List.map Arrival.job) (List.filter_eq_self.mpr fun a ha => ?_)
  obtain hadmitted | ⟨-, hdrop, -⟩ := h.outcomes a ha
  · simp [hadmitted]
  · exact absurd (hblocking.symm.trans hdrop) (by decide)

/-- What `HandleFrameSet` retains, and what of it the workers get. -/
structure FrameDelivery (s : State Unit) : Prop where
  retained : ∀ r ∈ s.shared.completed, CompleteSet s.shared.config r
  inOrder : Calm s.shared → s.shared.completed =
    (s.shared.sets.take s.shared.completed.length).map (FrameSet.frames s.shared.config)
  owned : Calm s.shared → ∀ c, ∀ job ∈ s.shared.popped c, job.ownsFrame = true
  popped : Calm s.shared → s.shared.config.dropNewest = false →
    ∀ c, s.shared.config.cameraEnabled c = true →
      (s.shared.popped c).map RetainedFrameJob.frame =
        (cameraFrames s.shared c).take (s.shared.popped c).length
  aligned : Calm s.shared → s.shared.config.dropNewest = false →
    ∀ c c', s.shared.config.cameraEnabled c = true → s.shared.config.cameraEnabled c' = true →
      (admittedJobs s.shared c).length ≤ (admittedJobs s.shared c').length + 1 ∧
        (s.shared.popped c).length ≤
          (s.shared.popped c').length + (s.shared.config.queueCapacity + 1)
  subsequence : Calm s.shared → ∀ c, s.shared.config.cameraEnabled c = true →
    ((s.shared.popped c).map RetainedFrameJob.frame).Sublist (cameraFrames s.shared c)
  rejected : Calm s.shared → ∀ c, s.shared.config.cameraEnabled c = true →
    cameraFrames s.shared c = (s.shared.arrivals c).map (fun a => a.job.frame) ++
        ((s.locals (.dispatcher ()) : Code CallbackPc).pc.awaits c).map
          (FrameSet.frameOf s.shared.config c) ∧
      admittedJobs s.shared c = s.shared.popped c ++ jobsOf (s.shared.queues c) ∧
      ∀ a ∈ s.shared.arrivals c, a.outcome ≠ .admitted ↔
        a.outcome = .full ∧ a.queued = s.shared.config.queueCapacity

section Delivery
variable {s : State Unit}

theorem jobsOf_length (h : (threads Unit cameraInfo).Reachable s) (c : CameraId) :
    (jobsOf (s.shared.queues c)).length ≤ s.shared.config.queueCapacity := by
  cases hq : s.shared.queues c with
  | none => exact Nat.zero_le _
  | some q =>
    have hok := (reachable_routed h).1 c q hq
    exact hok.capacity ▸ hok.length

theorem admitted_length (h : (threads Unit cameraInfo).Reachable s) (hcalm : Calm s.shared)
    (hblocking : s.shared.config.dropNewest = false) (henabled : s.shared.config.cameraEnabled c = true) :
    (admittedJobs s.shared c).length ≤ s.shared.sets.length ∧
      s.shared.sets.length ≤ (admittedJobs s.shared c).length + 1 := by
  have hlog := (reachable_history h).1.queues hcalm c
  have hlength := congrArg List.length ((reachable_inOrder h hcalm).arrivals c henabled)
  have hone := awaits_length c (s.locals (.dispatcher ()) : Code CallbackPc).pc
  rw [List.length_map, List.length_append, List.length_map, List.length_map] at hlength
  rw [hlog.admitted_blocking hblocking, List.length_map]
  omega

theorem popped_prefix (h : (threads Unit cameraInfo).Reachable s) (hcalm : Calm s.shared)
    (hblocking : s.shared.config.dropNewest = false) (henabled : s.shared.config.cameraEnabled c = true) :
    (s.shared.popped c).map RetainedFrameJob.frame <+: cameraFrames s.shared c := by
  have hlog := (reachable_history h).1.queues hcalm c
  have harrivals : (s.shared.arrivals c).map (fun a => a.job.frame) =
      (s.shared.popped c ++ jobsOf (s.shared.queues c)).map RetainedFrameJob.frame := by
    rw [← hlog.admitted, hlog.admitted_blocking hblocking, List.map_map]
    rfl
  have hframes := (reachable_inOrder h hcalm).arrivals c henabled
  rw [harrivals, List.map_append, List.append_assoc] at hframes
  exact ⟨_, hframes.symm⟩

/-- For any callbacks, one at a time, and any order of the steps of callback, workers and owner. -/
theorem frame_delivery (h : (threads Unit cameraInfo).Reachable s) : FrameDelivery s := by
  have hhistory := (reachable_history h).1
  constructor
  case retained => exact hhistory.complete
  case inOrder =>
    intro hcalm
    have hcompleted := (reachable_inOrder h hcalm).completed
    rw [List.map_take, hcompleted, List.take_left]
  case owned =>
    intro hcalm c job hjob
    have hlog := hhistory.queues hcalm c
    have hmem : job ∈ admittedJobs s.shared c := hlog.admitted ▸ List.mem_append_left _ hjob
    obtain ⟨a, ha, rfl⟩ := List.mem_map.mp hmem
    exact hlog.owned a (List.mem_of_mem_filter ha)
  case popped =>
    intro hcalm hblocking c henabled
    have hprefix := popped_prefix h hcalm hblocking henabled
    have htake := List.prefix_iff_eq_take.mp hprefix
    rwa [List.length_map] at htake
  case aligned =>
    intro hcalm hblocking c c' henabled henabled'
    have hlength := admitted_length h hcalm hblocking henabled
    have hlength' := admitted_length h hcalm hblocking henabled'
    have hpopped := congrArg List.length (hhistory.queues hcalm c).admitted
    have hpopped' := congrArg List.length (hhistory.queues hcalm c').admitted
    have hqueued := jobsOf_length h c'
    rw [List.length_append] at hpopped hpopped'
    omega
  case subsequence =>
    intro hcalm c henabled
    have hframes := (reachable_inOrder h hcalm).arrivals c henabled
    rw [cameraFrames, hframes]
    exact (hhistory.queues hcalm c).sublist.trans (List.sublist_append_left _ _)
  case rejected =>
    intro hcalm c henabled
    have hlog := hhistory.queues hcalm c
    refine ⟨(reachable_inOrder h hcalm).arrivals c henabled, hlog.admitted, fun a ha => ?_⟩
    obtain hadmitted | ⟨hfull, -, hqueued⟩ := hlog.outcomes a ha
    · simp [hadmitted]
    · simp [hfull, hqueued]

end Delivery

/-! ### Runs -/

def stereoConfig : CameraCoreConfig := { CameraCoreConfig.default with cameraMask := 3 }

def stereoSet (frame frame1 : Frame) : FrameSet :=
  ⟨frameSetSize, 2, fun i => if i = 0 then ⟨1, some frame1⟩ else ⟨0, some frame⟩⟩

def pushFirst (set : FrameSet) : List (Σ i : Thread Unit, Act i) :=
  dispatcherDoes () [.callback (some set), .step, .step,
    .info statusOk { sampleInfo with cameraId := 1 } 9, .retained statusOk, .step]

def pushSecond : List (Σ i : Thread Unit, Act i) :=
  dispatcherDoes () [.info statusOk sampleInfo 9, .retained statusOk, .step, .step, .step]

def stereoRun : List (Σ i : Thread Unit, Act i) :=
  startRun stereoConfig ++ pushFirst (stereoSet 7 8) ++ pushSecond ++ pushFirst (stereoSet 9 10) ++
    workerDoes 0 [.step]

def stereoEnd : State Unit :=
  ((threads Unit false).toSystem.run stereoRun (threads Unit false).toSystem.start).get rfl

theorem frame_delivery_stereo : Calm stereoEnd.shared ∧
    (stereoEnd.shared.popped 0).map RetainedFrameJob.frame = [some 7] ∧
    (admittedJobs stereoEnd.shared 1).map RetainedFrameJob.frame = [some 8, some 10] ∧
    FrameDelivery stereoEnd :=
  ⟨⟨rfl, rfl⟩, by decide, by decide, frame_delivery (System.reachable_get _)⟩

end RoboBaton.Camera
