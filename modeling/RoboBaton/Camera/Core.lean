import RoboBaton.Camera.Queue
import RoboBaton.Metrics.Record
import Mathlib.Data.List.FinRange
import Mathlib.Logic.Function.Basic
import Mathlib.Data.Fintype.Sum
import Mathlib.Tactic.DeriveFintype

/-! `CameraLifecycleCore`: its members, what libsc132 passes to it, and the code that all of
its threads run. The threads of libsc132 that run callbacks are indexed by `D`. -/

namespace RoboBaton.Camera
open Metrics

abbrev CameraId := Fin kMaxCameras

abbrev Status := Int32

structure CameraCoreConfig where
  cameraMask : UInt32
  fps : UInt32
  rotation : UInt32
  width : UInt32
  height : UInt32
  timeoutMs : UInt32
  maxSkewNs : UInt64
  queueCapacity : Nat
  dropNewest : Bool
  rateMetricsEnabled : Bool
  deriving DecidableEq, Repr

namespace CameraCoreConfig

def default : CameraCoreConfig where
  cameraMask := 1
  fps := 30
  rotation := 90
  width := 1280
  height := 1088
  timeoutMs := 100
  maxSkewNs := 10000000
  queueCapacity := 2
  dropNewest := false
  rateMetricsEnabled := false

def valid (config : CameraCoreConfig) : Bool :=
  config.cameraMask != 0 && (config.cameraMask &&& ~~~15) == 0 && config.queueCapacity > 0 &&
    config.width > 0 && config.height > 0 && config.timeoutMs > 0 && config.maxSkewNs > 0

def cameraEnabled (config : CameraCoreConfig) (c : CameraId) : Bool :=
  (config.cameraMask &&& (1 <<< UInt32.ofNat c)) != 0

/-- `CameraEnabled` of an id that need not be one of a camera. -/
def enabledCamera (config : CameraCoreConfig) (cameraId : UInt32) : Option CameraId :=
  if h : cameraId.toNat < kMaxCameras then
    if config.cameraEnabled ⟨cameraId.toNat, h⟩ then some ⟨cameraId.toNat, h⟩ else none
  else none

def enabledCameraCount (config : CameraCoreConfig) : Nat :=
  ((List.finRange kMaxCameras).filter config.cameraEnabled).length

end CameraCoreConfig

/-- The numbers of `sc132_frame_set_config_t`. -/
structure ProducerConfig where
  cameraCount : UInt32
  width : UInt32
  height : UInt32
  timeoutMs : UInt32
  maxSkewNs : UInt64
  deriving DecidableEq, Repr

def CameraCoreConfig.producer (config : CameraCoreConfig) : ProducerConfig where
  cameraCount := UInt32.ofNat config.enabledCameraCount
  width := config.width
  height := config.height
  timeoutMs := config.timeoutMs
  maxSkewNs := config.maxSkewNs

/-! ### What libsc132 passes to the callback -/

structure FrameSetItem where
  cameraId : UInt32
  frame : Option Frame
  deriving DecidableEq, Repr

/-- `sizeof(sc132_frame_set_t)`. -/
def frameSetSize : UInt32 := 224

structure FrameSet where
  structSize : UInt32
  cameraCount : UInt32
  items : Fin kMaxCameras → FrameSetItem

/-- The checks of `HandleFrameSet` on the frame set itself. -/
def headerOk (config : CameraCoreConfig) (set : FrameSet) : Bool :=
  set.structSize == frameSetSize && set.cameraCount.toNat == config.enabledCameraCount &&
    set.cameraCount != 0 && set.cameraCount.toNat ≤ kMaxCameras

def frameInfoOk (c : CameraId) (status : Status) (info : FrameInfo) : Bool :=
  status == statusOk && info.structSize == frameInfoSize && info.cameraId.toNat == c.val &&
    info.yData.isSome && info.uvData.isSome && info.ySize != 0 && info.uvSize != 0 &&
    info.width != 0 && info.height != 0 && info.stride != 0 && info.vstride != 0

/-- The loop over the items: the next index, the cameras seen, and the frames that this call
has retained so far. -/
structure Scan where
  set : FrameSet
  index : Nat
  seen : CameraId → Bool
  retained : List (CameraId × Frame)

namespace Scan

def start (set : FrameSet) : Scan := ⟨set, 0, fun _ => false, []⟩

def item (scan : Scan) : Option FrameSetItem :=
  if h : scan.index < kMaxCameras then some (scan.set.items ⟨scan.index, h⟩) else none

def check (scan : Scan) (config : CameraCoreConfig) : Option (CameraId × Frame) := do
  let item ← scan.item
  let c ← config.enabledCamera item.cameraId
  let frame ← item.frame
  -- a camera that occurs twice makes the set invalid
  if scan.seen c then none else some (c, frame)

def see (scan : Scan) (c : CameraId) : Scan :=
  { scan with seen := Function.update scan.seen c true }

def take (scan : Scan) (c : CameraId) (frame : Frame) : Scan :=
  { scan with retained := scan.retained ++ [(c, frame)] }

def next (scan : Scan) : Scan := { scan with index := scan.index + 1 }

end Scan

/-! ### The core -/

inductive WorkerStatus
  | none
  | running
  | finished
  | joined
  deriving DecidableEq, Repr

inductive StartResult
  | rejected
  | failed
  | started
  deriving DecidableEq, Repr

inductive Event
  | setFps (fps : UInt32) (status : Status)
  | setOutputRotation (rotation : UInt32) (status : Status)
  | spawnWorker (c : CameraId) (ok : Bool)
  | startFrameSet (producer : ProducerConfig) (cameraMask : UInt32)
  | requestStop
  | joinWorker (c : CameraId) (ok : Bool)
  | stop
  | stopReturned
  | callbackFailed
  | workerFailed (c : CameraId)
  | returnStart (result : StartResult)
  | returnCleanup (claimed result : Bool)
  deriving DecidableEq, Repr

inductive Thread (D : Type)
  | owner
  | dispatcher (d : D)
  | worker (c : CameraId)
  deriving DecidableEq, Fintype

inductive Incident (D : Type)
  | callbackException (d : D)
  | sinkException (c : CameraId)
  | startFailed
  | joinFailed
  deriving DecidableEq, Repr

def Incident.thread {D : Type} : Incident D → Thread D
  | .callbackException d => .dispatcher d
  | .sinkException c => .worker c
  | .startFailed => .owner
  | .joinFailed => .owner

/-- A frame that reached `Push`, and what became of it. -/
structure Arrival where
  job : RetainedFrameJob
  outcome : Outcome
  queued : Nat
  deriving DecidableEq, Repr

/-- The members of `CameraLifecycleCore` and its bridge, which callbacks of libsc132 are
running, and the history of the run. -/
structure Core (D : Type) where
  config : CameraCoreConfig
  accepting : Bool
  queues : CameraId → Option FrameQueue
  workers : CameraId → WorkerStatus
  metrics : CameraId → Metrics
  sink : Bool
  notifier : Bool
  failed : Bool
  acceptingClosed : Bool
  stopRequested : Bool
  startClaimed : Bool
  startAttempted : Bool
  running : Bool
  terminal : Bool
  cleanupComplete : Bool
  cleanupQuiesced : Bool
  inCallback : D → Bool
  admissionOpened : Bool
  admissionClosed : Bool
  retained : List Frame
  released : List Frame
  sets : List FrameSet
  completed : List (List (CameraId × Frame))
  arrivals : CameraId → List Arrival
  popped : CameraId → List RetainedFrameJob
  events : List Event
  notifications : Nat
  incidents : List (Incident D)

namespace Core
variable {D : Type}

def init : Core D where
  config := .default
  accepting := false
  queues := fun _ => none
  workers := fun _ => .none
  metrics := fun _ => .new .k64Bit
  sink := false
  notifier := false
  failed := false
  acceptingClosed := false
  stopRequested := false
  startClaimed := false
  startAttempted := false
  running := false
  terminal := false
  cleanupComplete := false
  cleanupQuiesced := false
  inCallback := fun _ => false
  admissionOpened := false
  admissionClosed := false
  retained := []
  released := []
  sets := []
  completed := []
  arrivals := fun _ => []
  popped := fun _ => []
  events := []
  notifications := 0
  incidents := []

def emit (s : Core D) (e : Event) : Core D := { s with events := s.events ++ [e] }

theorem mem_emit {s : Core D} {e e' : Event} : e' ∈ (s.emit e).events ↔ e' ∈ s.events ∨ e' = e :=
  List.mem_append.trans (or_congr_right List.mem_singleton)

def incident (s : Core D) (i : Incident D) : Core D := { s with incidents := s.incidents ++ [i] }

theorem mem_incident {s : Core D} {i j : Incident D} :
    j ∈ (s.incident i).incidents ↔ j ∈ s.incidents ∨ j = i :=
  List.mem_append.trans (or_congr_right List.mem_singleton)

def retain (s : Core D) (frame : Frame) : Core D := { s with retained := s.retained ++ [frame] }

/-- `RetainedFrameJob::Reset`. -/
def release (s : Core D) (job : RetainedFrameJob) : Core D :=
  { s with released := s.released ++ job.frame.toList }

def setQueue (s : Core D) (c : CameraId) (q : FrameQueue) : Core D :=
  { s with queues := Function.update s.queues c (some q) }

theorem setQueue_self (s : Core D) (c : CameraId) (q : FrameQueue) :
    (s.setQueue c q).queues c = some q := Function.update_self ..

theorem setQueue_of_ne (s : Core D) {c c' : CameraId} (q : FrameQueue) (h : c' ≠ c) :
    (s.setQueue c q).queues c' = s.queues c' := Function.update_of_ne h ..

def setWorker (s : Core D) (c : CameraId) (status : WorkerStatus) : Core D :=
  { s with workers := Function.update s.workers c status }

theorem setWorker_self (s : Core D) (c : CameraId) (status : WorkerStatus) :
    (s.setWorker c status).workers c = status := Function.update_self ..

theorem setWorker_of_ne (s : Core D) {c c' : CameraId} (status : WorkerStatus) (h : c' ≠ c) :
    (s.setWorker c status).workers c' = s.workers c' := Function.update_of_ne h ..

def arrive (s : Core D) (c : CameraId) (job : RetainedFrameJob) (outcome : Outcome)
    (queued : Nat) : Core D :=
  { s with arrivals := Function.update s.arrivals c (s.arrivals c ++ [⟨job, outcome, queued⟩]) }

end Core

/-! ### Code that every thread runs -/

inductive CommonOp
  | access (c : CameraId) (a : Access)
  | storeAccepting
  | exchangeClosed
  | exchangeStop
  | requestStop
  | closeQueue (c : CameraId)
  | exchangeFailed
  | callNotifier
  deriving DecidableEq, Repr

def recordFailure : List CommonOp := [.exchangeFailed]

def cameras : List CameraId := List.finRange kMaxCameras

def closeAdmissionAndRequestStop : List CommonOp :=
  [.storeAccepting, .exchangeClosed, .exchangeStop] ++ cameras.map .closeQueue

/-- One instruction, and the instructions it puts in front of the remaining code. -/
def CommonOp.exec {D : Type} (spurious : Bool) (s : Core D) : CommonOp → Core D × List CommonOp
  | .access c a =>
    let r := a.exec spurious (s.metrics c)
    ({ s with metrics := Function.update s.metrics c r.1 }, r.2.map (.access c))
  | .storeAccepting => ({ s with accepting := false, admissionClosed := true }, [])
  | .exchangeClosed => ({ s with acceptingClosed := true }, [])
  -- only the first of all threads calls `sc132_request_stop`
  | .exchangeStop =>
    ({ s with stopRequested := true }, if s.stopRequested then [] else [.requestStop])
  | .requestStop => (s.emit .requestStop, [])
  | .closeQueue c =>
    ({ s with queues :=
        Function.update s.queues c ((s.queues c).map FrameQueue.closeAdmission) }, [])
  -- only the first failure is notified
  | .exchangeFailed =>
    ({ s with failed := true }, if !s.failed && s.notifier then [.callNotifier] else [])
  -- an exception of the notifier is swallowed
  | .callNotifier => ({ s with notifications := s.notifications + 1 }, [])

/-- A record function of the metrics of a camera, unless they are disabled. -/
def record {D : Type} (s : Core D) (c : CameraId) (as : List Access) : List CommonOp :=
  if s.config.rateMetricsEnabled then as.map (.access c) else []

/-- The instructions of common code that a thread has to run before it is at `pc`. -/
structure Code (Pc : Type) where
  pending : List CommonOp
  pc : Pc

namespace Code
variable {D Pc : Type}

def of (pc : Pc) : Code Pc := ⟨[], pc⟩

def advance (spurious : Bool) (s : Core D) (op : CommonOp) (ops : List CommonOp) (pc : Pc) :
    Core D × Code Pc :=
  ((op.exec spurious s).1, ⟨(op.exec spurious s).2 ++ ops, pc⟩)

end Code

end RoboBaton.Camera
