import RoboBaton.Camera.Contract

/-! Frames stay with their camera: on the way through a callback, in the queue of the camera
and with its worker. -/

namespace RoboBaton.Camera
open Trace Discipline Transition
variable {D : Type} {s s' : Core D}

def JobOf (c : CameraId) (job : RetainedFrameJob) : Prop := job.info.cameraId.toNat = c.val

structure QueueOk (config : CameraCoreConfig) (c : CameraId) (q : FrameQueue) : Prop where
  capacity : q.capacity = config.queueCapacity
  dropNewest : q.dropNewest = config.dropNewest
  length : q.queue.length ≤ q.capacity
  enabled : config.cameraEnabled c = true
  jobs : ∀ job ∈ q.queue, JobOf c job

def QueuesOk (s : Core D) : Prop := ∀ c q, s.queues c = some q → QueueOk s.config c q

def CallbackRouted (l : Code CallbackPc) : Prop :=
  match l.pc with
  | .retain _ c _ info => info.cameraId.toNat = c.val
  | .push _ c job => JobOf c job
  | .rejected _ c job => JobOf c job
  | _ => True

def WorkerRouted (c : CameraId) (l : Code WorkerPc) : Prop := ∀ job ∈ l.pc.jobs, JobOf c job

theorem QueuesOk.setQueue (h : QueuesOk s) {c : CameraId} {q : FrameQueue}
    (hq : QueueOk s.config c q) : QueuesOk (s.setQueue c q) := by
  intro c' x hx
  by_cases hc : c' = c
  · subst hc
    obtain rfl := Option.some.inj ((s.setQueue_self c' q).symm.trans hx)
    exact hq
  · exact h c' x ((s.setQueue_of_ne q hc).symm.trans hx)

theorem QueuesOk.congr (h : QueuesOk s) (hq : s'.queues = s.queues) (hc : s'.config = s.config) :
    QueuesOk s' := by
  intro c q hcq
  rw [hq] at hcq
  exact hc ▸ h c q hcq

theorem queuesOk_common (h : QueuesOk s) (spurious : Bool) (op : CommonOp) :
    QueuesOk (op.exec spurious s).1 := by
  cases op with
  | closeQueue c =>
    intro c' x hx
    obtain ⟨y, hy, hqueue, -⟩ := closeQueue_some hx
    obtain ⟨hcapacity, hdrop, hlength, henabled, hjobs⟩ := h c' y hy
    have hparts : x.capacity = y.capacity ∧ x.dropNewest = y.dropNewest := by
      change Function.update s.queues c ((s.queues c).map FrameQueue.closeAdmission) c' = some x at hx
      by_cases hc : c' = c
      · subst hc
        rw [Function.update_self, hy] at hx
        cases hx
        exact ⟨rfl, rfl⟩
      · rw [Function.update_of_ne hc, hy] at hx
        cases hx
        exact ⟨rfl, rfl⟩
    refine ⟨hparts.1.trans hcapacity, hparts.2.trans hdrop, ?_, henabled, ?_⟩
    · rw [hqueue, hparts.1]
      exact hlength
    · rw [hqueue]
      exact hjobs
  | _ => exact h.congr rfl rfl

theorem frameInfoOk_cameraId {c : CameraId} {status : Status} {info : FrameInfo}
    (h : frameInfoOk c status info = true) : info.cameraId.toNat = c.val := by
  simp only [frameInfoOk, Bool.and_eq_true, beq_iff_eq] at h
  tauto

theorem callback_routed [DecidableEq D] {d : D} {l l' : Code CallbackPc} (hQ : QueuesOk s)
    (hl : CallbackRouted l) (h : CallbackStep d s l s' l') : QueuesOk s' ∧ CallbackRouted l' := by
  cases h with
  | common spurious op ops pc => exact ⟨queuesOk_common hQ spurious op, hl⟩
  | info scan c frame status info nowNs hindex hcheck hinfo =>
    exact ⟨hQ, frameInfoOk_cameraId hinfo⟩
  | retain scan c frame info => exact ⟨hQ.congr rfl rfl, hl⟩
  | pushed scan c job q q' hq hp =>
    obtain ⟨-, hroom, rfl⟩ := FrameQueue.push_eq_pushed.mp hp
    obtain ⟨hcapacity, hdrop, -, henabled, hjobs⟩ := hQ c q hq
    have harrived : QueuesOk (s.arrive c job .admitted q.queue.length) := hQ.congr rfl rfl
    refine ⟨harrived.setQueue ⟨hcapacity, hdrop, ?_, henabled, ?_⟩, trivial⟩
    · rw [List.length_append, List.length_singleton]
      exact hroom
    · intro j hj
      rcases List.mem_append.mp hj with hj | hj
      · exact hjobs j hj
      · exact List.mem_singleton.mp hj ▸ hl
  | rejected scan c job q outcome hq hp => exact ⟨hQ.congr rfl rfl, hl⟩
  | leave failed => cases failed <;> exact ⟨hQ.congr rfl rfl, trivial⟩
  | _ => exact ⟨hQ.congr rfl rfl, trivial⟩

theorem worker_routed {cameraInfo : Bool} {c : CameraId} {l l' : Code WorkerPc} (hQ : QueuesOk s)
    (hl : WorkerRouted c l) (h : WorkerStep cameraInfo c s l s' l') :
    QueuesOk s' ∧ WorkerRouted c l' := by
  cases h with
  | common spurious op ops pc => exact ⟨queuesOk_common hQ spurious op, hl⟩
  | popped q job q' hq hp =>
    obtain ⟨-, rest, hqueue, rfl⟩ := FrameQueue.pop_eq_popped.mp hp
    obtain ⟨hcapacity, hdrop, hlength, henabled, hjobs⟩ := hQ c q hq
    rw [hqueue] at hlength hjobs
    have hrest : QueuesOk (s.setQueue c { q with queue := rest }) :=
      hQ.setQueue ⟨hcapacity, hdrop, (Nat.le_succ _).trans hlength, henabled,
        fun j hj => hjobs j (List.mem_cons_of_mem _ hj)⟩
    exact ⟨hrest.congr rfl rfl, fun j hj => hjobs j (List.mem_singleton.mp hj ▸ List.mem_cons_self)⟩
  | finish failed => cases failed <;> exact ⟨hQ.congr rfl rfl, nofun⟩
  | callSink job => exact ⟨hQ, hl⟩
  | published job latencyNs => exact ⟨hQ, hl⟩
  | publishedInfo job => exact ⟨hQ, hl⟩
  | throwCall job => exact ⟨hQ.congr rfl rfl, hl⟩
  | throwImage job => exact ⟨hQ.congr rfl rfl, hl⟩
  | throwInfo job => exact ⟨hQ.congr rfl rfl, hl⟩
  | stopped q hq hp => exact ⟨hQ, nofun⟩
  | reset job => exact ⟨hQ.congr rfl rfl, nofun⟩
  | unwind job => exact ⟨hQ.congr rfl rfl, nofun⟩

theorem owner_routed {op : OwnerOp} {detached detached' : List RetainedFrameJob} (hL : Ledger s)
    (hQ : QueuesOk s) (h : OwnerEffect s detached op s' detached') : QueuesOk s' := by
  cases h with
  | quiet _ _ hq => exact hQ.congr hq.queues hq.config
  | common op => exact queuesOk_common hQ false op
  | claim config sink notifier hclaimed =>
    intro c q hq
    exact absurd (((hL.unclaimed hclaimed).2.2.2.1 c).symm.trans hq) (by simp)
  | makeQueue c henabled =>
    exact hQ.setQueue ⟨rfl, rfl, Nat.zero_le _, henabled, by simp [FrameQueue.new]⟩
  | detach c q hq =>
    obtain ⟨hcapacity, hdrop, -, henabled, -⟩ := hQ c q hq
    exact hQ.setQueue ⟨hcapacity, hdrop, Nat.zero_le _, henabled, by simp [FrameQueue.stopAndDetach]⟩
  | _ => exact hQ.congr rfl rfl

def ThreadRouted : ∀ i : Thread D, Local i → Prop
  | .owner, _ => True
  | .dispatcher _, (l : Code CallbackPc) => CallbackRouted l
  | .worker c, (l : Code WorkerPc) => WorkerRouted c l

theorem reachable_routed [Fintype D] [DecidableEq D] {cameraInfo : Bool} {s : State D}
    (h : (threads D cameraInfo).Reachable s) :
    QueuesOk s.shared ∧ ∀ i, ThreadRouted i (s.locals i) := by
  refine Threads.Reachable.outline (T := threads D cameraInfo) (I := QueuesOk)
    (J := fun i _ l => ThreadRouted i l) ⟨nofun, ?_⟩ ?_ (fun _ _ _ _ _ _ _ _ _ _ _ h => h) h
  · rintro (_ | d | c)
    · trivial
    · trivial
    · exact nofun
  · intro s i a s' l' hs hI hJ hst
    cases i with
    | owner =>
      rcases ownerStep_cases hst with ⟨rfl, -⟩ | ⟨op, rest, -, he⟩
      · exact ⟨hI, trivial⟩
      · exact ⟨owner_routed (reachable_core hs).1 hI (exec_effect he), trivial⟩
    | dispatcher d => exact callback_routed hI hJ (frameSetTrampoline_step hst)
    | worker c => exact worker_routed hI hJ (workerLoop_step hst).2

end RoboBaton.Camera
