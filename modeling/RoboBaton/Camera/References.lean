import RoboBaton.Camera.Lifecycle
import Mathlib.Algebra.Order.BigOperators.Group.Finset
import Mathlib.Tactic.Abel

/-! References to frames: what is retained and not released yet is owned by exactly one
`RetainedFrameJob`, in a queue or in the hands of a thread. -/

namespace RoboBaton.Camera
open Transition
variable {D : Type}

/-! ### Where the jobs are -/

def jobsOf (q : Option FrameQueue) : List RetainedFrameJob := (q.map FrameQueue.queue).getD []

def CallbackPc.jobs : CallbackPc → List RetainedFrameJob
  | .push _ _ job => [job]
  | .rejected _ _ job => [job]
  | .unwind job => [job]
  | .idle => []
  | .loadAccepting _ => []
  | .checkHeader _ => []
  | .item _ => []
  | .retain .. => []
  | .leave _ => []

def WorkerPc.jobs : WorkerPc → List RetainedFrameJob
  | .callSink job => [job]
  | .publishImage job => [job]
  | .publishInfo job => [job]
  | .reset job => [job]
  | .unwind job => [job]
  | .pop => []
  | .finish _ => []
  | .finished => []

def heldJobs : ∀ i : Thread D, Local i → List RetainedFrameJob
  | .owner, (l : OwnerLocal) => l.detached
  | .dispatcher _, (l : Code CallbackPc) => l.pc.jobs
  | .worker _, (l : Code WorkerPc) => l.pc.jobs

def countOwners (f : Frame) (jobs : List RetainedFrameJob) : Nat :=
  jobs.countP fun job => job.frame == some f

@[simp] theorem countOwners_nil (f : Frame) : countOwners f [] = 0 := rfl

@[simp] theorem countOwners_append (f : Frame) (jobs jobs' : List RetainedFrameJob) :
    countOwners f (jobs ++ jobs') = countOwners f jobs + countOwners f jobs' :=
  List.countP_append

theorem countOwners_cons (f : Frame) (job : RetainedFrameJob) (jobs : List RetainedFrameJob) :
    countOwners f (job :: jobs) = countOwners f [job] + countOwners f jobs :=
  countOwners_append f [job] jobs

theorem count_released (s : Core D) (job : RetainedFrameJob) (f : Frame) :
    (s.release job).released.count f = s.released.count f + countOwners f [job] := by
  rcases hf : job.frame with _ | g <;>
    simp [Core.release, countOwners, hf, List.count_singleton]

def queued (f : Frame) (s : Core D) : Nat := ∑ c, countOwners f (jobsOf (s.queues c))

theorem queued_congr {f : Frame} {s s' : Core D}
    (h : ∀ c, jobsOf (s'.queues c) = jobsOf (s.queues c)) : queued f s' = queued f s :=
  Finset.sum_congr rfl fun c _ => by rw [h c]

theorem queued_update (f : Frame) (s : Core D) (c : CameraId) (q : Option FrameQueue) :
    queued f { s with queues := Function.update s.queues c q } + countOwners f (jobsOf (s.queues c)) =
      queued f s + countOwners f (jobsOf q) :=
  sum_update (fun _ q => countOwners f (jobsOf q)) s.queues c q

/-! ### One step -/

/-- A step from `s` to `s'` that turns the held jobs `js` into `js'` keeps the books of `f`. -/
def Balanced (f : Frame) (s s' : Core D) (js js' : List RetainedFrameJob) : Prop :=
  s'.retained.count f + s.released.count f + queued f s + countOwners f js =
    s.retained.count f + s'.released.count f + queued f s' + countOwners f js'

section Step
variable {f : Frame} {s s' : Core D} {js js' : List RetainedFrameJob}

theorem Balanced.quiet (hretained : s'.retained = s.retained) (hreleased : s'.released = s.released)
    (hqueues : ∀ c, jobsOf (s'.queues c) = jobsOf (s.queues c))
    (hjs : countOwners f js' = countOwners f js) : Balanced f s s' js js' := by
  rw [Balanced, hretained, hreleased, queued_congr hqueues, hjs]

theorem Balanced.release (job : RetainedFrameJob)
    (hjs : countOwners f js = countOwners f [job] + countOwners f js') :
    Balanced f s (s.release job) js js' := by
  have hq : queued f (s.release job) = queued f s := rfl
  have hr : (s.release job).retained = s.retained := rfl
  rw [Balanced, count_released, hq, hr, hjs]
  omega

theorem Balanced.move {c : CameraId} {q : Option FrameQueue}
    (hretained : s'.retained = s.retained) (hreleased : s'.released = s.released)
    (hqueues : s'.queues = Function.update s.queues c q)
    (hjs : countOwners f (jobsOf (s.queues c)) + countOwners f js =
      countOwners f (jobsOf q) + countOwners f js') : Balanced f s s' js js' := by
  have hq : queued f s' = queued f { s with queues := Function.update s.queues c q } := by
    unfold queued
    rw [hqueues]
  have hupdate := queued_update f s c q
  rw [Balanced, hretained, hreleased, hq]
  omega

theorem common_jobs (spurious : Bool) (s : Core D) (op : CommonOp) :
    (op.exec spurious s).1.retained = s.retained ∧ (op.exec spurious s).1.released = s.released ∧
      ∀ c, jobsOf ((op.exec spurious s).1.queues c) = jobsOf (s.queues c) := by
  cases op with
  | closeQueue c' =>
    refine ⟨rfl, rfl, fun c => ?_⟩
    show jobsOf (Function.update s.queues c' ((s.queues c').map FrameQueue.closeAdmission) c) = _
    by_cases hc : c = c'
    · subst hc
      rw [Function.update_self]
      cases s.queues c <;> rfl
    · rw [Function.update_of_ne hc]
  | _ => exact ⟨rfl, rfl, fun _ => rfl⟩

theorem balanced_common (spurious : Bool) (op : CommonOp) :
    Balanced f s (op.exec spurious s).1 js js :=
  have h := common_jobs spurious s op
  .quiet h.1 h.2.1 h.2.2 rfl

theorem callback_balanced [DecidableEq D] {d : D} {l l' : Code CallbackPc}
    (h : CallbackStep d s l s' l') : Balanced f s s' l.pc.jobs l'.pc.jobs := by
  cases h with
  | common spurious op ops pc => exact balanced_common spurious op
  | retain scan c frame info =>
    have hcount : (s.retained ++ [frame]).count f =
        s.retained.count f + countOwners f [⟨some frame, info⟩] := by
      rw [List.count_append, List.count_singleton]
      simp [countOwners]
    show (s.retained ++ [frame]).count f + s.released.count f + queued f s + 0 =
      s.retained.count f + s.released.count f + queued f s + countOwners f [⟨some frame, info⟩]
    rw [hcount]
    omega
  | pushed scan c job q q' hq hp =>
    obtain ⟨-, -, rfl⟩ := FrameQueue.push_eq_pushed.mp hp
    refine Balanced.move (c := c) (q := some _) rfl rfl rfl ?_
    rw [hq]
    show _ = countOwners f (q.queue ++ [job]) + 0
    rw [countOwners_append]
    rfl
  | dropped scan c job => exact .release job rfl
  | unwind job => exact .release job rfl
  | leave failed => cases failed <;> exact .quiet rfl rfl (fun _ => rfl) rfl
  | _ => exact .quiet rfl rfl (fun _ => rfl) rfl

theorem worker_balanced {cameraInfo : Bool} {c : CameraId} {l l' : Code WorkerPc}
    (h : WorkerStep cameraInfo c s l s' l') : Balanced f s s' l.pc.jobs l'.pc.jobs := by
  cases h with
  | common spurious op ops pc => exact balanced_common spurious op
  | popped q job q' hq hp =>
    obtain ⟨-, rest, hqueue, rfl⟩ := FrameQueue.pop_eq_popped.mp hp
    refine Balanced.move (c := c) (q := some _) rfl rfl rfl ?_
    rw [hq]
    show countOwners f q.queue + 0 = countOwners f rest + countOwners f [job]
    rw [hqueue, countOwners_cons, Nat.add_zero, Nat.add_comm]
  | reset job => exact .release job rfl
  | unwind job => exact .release job rfl
  | finish failed => cases failed <;> exact .quiet rfl rfl (fun _ => rfl) rfl
  | _ => exact .quiet rfl rfl (fun _ => rfl) rfl

theorem owner_balanced {op : OwnerOp} (hfresh : ∀ c, op = .makeQueue c → s.queues c = none)
    {detached detached' : List RetainedFrameJob} (h : OwnerEffect s detached op s' detached') :
    Balanced f s s' detached detached' := by
  cases h with
  | quiet _ _ h => exact .quiet h.retained h.released (fun c => by rw [h.queues]) rfl
  | common op => exact balanced_common false op
  | makeQueue c h =>
    refine Balanced.move (c := c) (q := some _) rfl rfl rfl ?_
    rw [hfresh c rfl]
    rfl
  | detach c q hq =>
    refine Balanced.move (c := c) (q := some _) rfl rfl rfl ?_
    rw [hq, countOwners_append, Nat.add_comm]
    exact (Nat.zero_add _).symm
  | release job _ h =>
    refine .release job ?_
    rw [h]
    exact countOwners_cons f job _
  | _ => exact .quiet rfl rfl (fun _ => rfl) rfl

end Step
end RoboBaton.Camera
