import RoboBaton.Camera.Core

/-! `WorkerLoop` with `PublishFrame` as its sink, at their atomic accesses. -/

namespace RoboBaton.Camera
open Metrics

inductive WorkerPc
  | pop
  | callSink (job : RetainedFrameJob)
  | publishImage (job : RetainedFrameJob)
  | publishInfo (job : RetainedFrameJob)
  | reset (job : RetainedFrameJob)
  | unwind (job : RetainedFrameJob)
  | finish (failed : Bool)
  | finished

inductive WorkerAct
  | step
  | spurious
  | returns (latencyNs : UInt64)
  | throws
  deriving DecidableEq, Repr

def workerFailure : Code WorkerPc := ⟨recordFailure ++ closeAdmissionAndRequestStop, .finish true⟩

section Worker
variable {D : Type}

def recordJob (s : Core D) (job : RetainedFrameJob) (as : List Access) : List CommonOp :=
  if h : job.info.cameraId.toNat < kMaxCameras then record s ⟨job.info.cameraId.toNat, h⟩ as
  else []

def throwSink (c : CameraId) (s : Core D) (job : RetainedFrameJob) (pending : List CommonOp) :
    Option (Core D × Code WorkerPc) :=
  some (s.incident (.sinkException c), ⟨pending, .unwind job⟩)

def handlePop (s : Core D) (c : CameraId) (q : FrameQueue) : Option (Core D × Code WorkerPc) :=
  match q.pop with
  | .popped job q' =>
    some ({ s.setQueue c q' with popped := Function.update s.popped c (s.popped c ++ [job]) },
      .of (.callSink job))
  | .stopped => some (s, .of (.finish false))
  | .blocked => none

/-- `WorkerLoop` with `PublishFrame` as its sink; `cameraInfo` tells whether the camera info
topics are published. -/
def WorkerPc.exec (cameraInfo : Bool) (c : CameraId) (s : Core D) :
    WorkerPc → WorkerAct → Option (Core D × Code WorkerPc)
  | .pop, .step => (s.queues c).bind (handlePop s c)
  | .callSink job, .step =>
    if s.sink then some (s, .of (.publishImage job)) else throwSink c s job []
  | .callSink job, .throws => throwSink c s job []
  | .publishImage job, .returns latencyNs =>
    some (s, ⟨recordJob s job (recordPublishSuccess latencyNs), .publishInfo job⟩)
  | .publishImage job, .throws => throwSink c s job (recordJob s job recordPublishFailure)
  | .publishInfo job, .step =>
    some (s, ⟨if cameraInfo then recordJob s job recordAuxiliaryPublishSuccess else [],
      .reset job⟩)
  -- without the camera info topics nothing is published that could throw
  | .publishInfo job, .throws =>
    if cameraInfo then throwSink c s job (recordJob s job recordPublishFailure) else none
  | .reset job, .step => some (s.release job, .of .pop)
  | .unwind job, .step => some (s.release job, workerFailure)
  | .finish failed, .step =>
    some ((if failed then s.emit (.workerFailed c) else s).setWorker c .finished, .of .finished)
  | _, _ => none

def workerLoop (cameraInfo : Bool) (c : CameraId) (a : WorkerAct) (s : Core D)
    (l : Code WorkerPc) : Option (Core D × Code WorkerPc) :=
  if s.workers c = .running then
    match l, a with
    | ⟨[], pc⟩, a => pc.exec cameraInfo c s a
    | ⟨op :: ops, pc⟩, .step => some (Code.advance false s op ops pc)
    | ⟨op :: ops, pc⟩, .spurious => some (Code.advance true s op ops pc)
    | ⟨_ :: _, _⟩, _ => none
  else none

/-- Everything that a step of a worker can do, with its guards. -/
inductive WorkerStep (cameraInfo : Bool) (c : CameraId) (s : Core D) :
    Code WorkerPc → Core D → Code WorkerPc → Prop
  | common (spurious op ops pc) : WorkerStep cameraInfo c s ⟨op :: ops, pc⟩
      (op.exec spurious s).1 ⟨(op.exec spurious s).2 ++ ops, pc⟩
  | popped (q job q') (hq : s.queues c = some q) (hp : q.pop = .popped job q') :
    WorkerStep cameraInfo c s (.of .pop)
      { s.setQueue c q' with popped := Function.update s.popped c (s.popped c ++ [job]) }
      (.of (.callSink job))
  | stopped (q) (hq : s.queues c = some q) (hp : q.pop = .stopped) :
    WorkerStep cameraInfo c s (.of .pop) s (.of (.finish false))
  | callSink (job) : WorkerStep cameraInfo c s (.of (.callSink job)) s (.of (.publishImage job))
  | throwCall (job) : WorkerStep cameraInfo c s (.of (.callSink job))
      (s.incident (.sinkException c)) (.of (.unwind job))
  | published (job latencyNs) : WorkerStep cameraInfo c s (.of (.publishImage job)) s
      ⟨recordJob s job (recordPublishSuccess latencyNs), .publishInfo job⟩
  | throwImage (job) : WorkerStep cameraInfo c s (.of (.publishImage job))
      (s.incident (.sinkException c)) ⟨recordJob s job recordPublishFailure, .unwind job⟩
  | publishedInfo (job) : WorkerStep cameraInfo c s (.of (.publishInfo job)) s
      ⟨if cameraInfo then recordJob s job recordAuxiliaryPublishSuccess else [], .reset job⟩
  | throwInfo (job) : WorkerStep cameraInfo c s (.of (.publishInfo job))
      (s.incident (.sinkException c)) ⟨recordJob s job recordPublishFailure, .unwind job⟩
  | reset (job) : WorkerStep cameraInfo c s (.of (.reset job)) (s.release job) (.of .pop)
  | unwind (job) : WorkerStep cameraInfo c s (.of (.unwind job)) (s.release job) workerFailure
  | finish (failed) : WorkerStep cameraInfo c s (.of (.finish failed))
      ((if failed then s.emit (.workerFailed c) else s).setWorker c .finished) (.of .finished)

variable {cameraInfo : Bool} {c : CameraId} {a : WorkerAct} {s s' : Core D} {l l' : Code WorkerPc}

theorem handlePop_step {q : FrameQueue} (hq : s.queues c = some q) (h : handlePop s c q = some (s', l')) :
    WorkerStep cameraInfo c s (.of .pop) s' l' := by
  unfold handlePop at h
  split at h <;> cases h
  · exact .popped q _ _ hq ‹_›
  · exact .stopped q hq ‹_›

theorem exec_workerStep {pc : WorkerPc} (h : pc.exec cameraInfo c s a = some (s', l')) :
    WorkerStep cameraInfo c s (.of pc) s' l' := by
  cases pc with
  | pop =>
    cases a <;> try cases h
    obtain ⟨q, hq, h⟩ := Option.bind_eq_some_iff.mp h
    exact handlePop_step hq h
  | callSink job =>
    cases a with
    | step =>
      simp only [WorkerPc.exec] at h
      split at h <;> cases h
      · exact .callSink job
      · exact .throwCall job
    | throws =>
      cases h
      exact .throwCall job
    | spurious => cases h
    | returns => cases h
  | publishImage job =>
    cases a with
    | returns latencyNs =>
      cases h
      exact .published job latencyNs
    | throws =>
      cases h
      exact .throwImage job
    | step => cases h
    | spurious => cases h
  | publishInfo job =>
    cases a with
    | step =>
      cases h
      exact .publishedInfo job
    | throws =>
      obtain ⟨-, h⟩ := Option.ite_none_right_eq_some.mp h
      cases h
      exact .throwInfo job
    | spurious => cases h
    | returns => cases h
  | reset job =>
    cases a <;> cases h
    exact .reset job
  | unwind job =>
    cases a <;> cases h
    exact .unwind job
  | finish failed =>
    cases a <;> cases h
    exact .finish failed
  | finished => cases a <;> cases h

theorem workerLoop_step (h : workerLoop cameraInfo c a s l = some (s', l')) :
    s.workers c = .running ∧ WorkerStep cameraInfo c s l s' l' := by
  obtain ⟨hrunning, h⟩ := Option.ite_none_right_eq_some.mp h
  refine ⟨hrunning, ?_⟩
  obtain ⟨_ | ⟨op, ops⟩, pc⟩ := l
  · exact exec_workerStep h
  · cases a with
    | step =>
      cases h
      exact .common false op ops pc
    | spurious =>
      cases h
      exact .common true op ops pc
    | returns latencyNs => cases h
    | throws => cases h

end Worker

end RoboBaton.Camera
