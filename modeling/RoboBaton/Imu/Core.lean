import RoboBaton.Library.Ring
import RoboBaton.Library.Threads
import RoboBaton.Metrics.Record

/-! `ImuLifecycleCore`: the acquisition callback, the publisher thread and the callers of
`Start` and `Stop`, interleaved at their atomic accesses. The callers are serialised by
`mutex_`, so at most one of them runs; its remaining code is a list of instructions. -/

namespace RoboBaton.Imu
open WrapRing Metrics

/-- A non-null `icm42688_handle_t*`. -/
abbrev Handle := Nat

abbrev Status := Int

def statusOk : Status := 0

def kPendingCapacity : Nat := 1024

instance : NeZero kPendingCapacity := ⟨by decide⟩

/-- `sizeof(icm42688_sample_t)`. -/
def sampleStructSize : UInt32 := 120

/-- `icm42688_sample_t`; `body` stands for the measurements, which the core only copies. -/
structure Sample (P : Type) where
  structSize : UInt32
  sampleTimestampNs : UInt64
  body : P
  deriving DecidableEq, Repr, Inhabited

structure PendingSample (P : Type) where
  sample : Sample P
  arrivalNs : UInt64
  deriving DecidableEq, Repr, Inhabited

def wellFormed {P : Type} : Option (Sample P) → Bool
  | none => false
  | some sample => sample.structSize == sampleStructSize

structure CoreConfig where
  sampleRateHz : UInt32
  fifoWatermarkSamples : UInt32
  readMode : UInt32
  rateMetricsEnabled : Bool
  deriving DecidableEq, Repr

/-- `publisher_` together with the thread it refers to. -/
inductive ThreadStatus where
  | none
  | running
  | finished
  | joined
  deriving DecidableEq, Repr

inductive Event where
  | create (config : CoreConfig) (status : Status) (handle : Option Handle)
  | setCallback (handle : Option Handle) (status : Status)
  | spawnPublisher (ok : Bool)
  | start (handle : Option Handle)
  | stop (handle : Option Handle)
  | stopReturned (status : Status)
  | joinPublisher
  | destroy (handle : Option Handle)
  | clearSink
  | clearNotifier
  | returnStart (result : Bool)
  | returnStop (result : Bool)
  deriving DecidableEq, Repr

inductive Incident where
  | malformedSample
  | ringOverflow
  | sinkException
  | stopFailed
  deriving DecidableEq, Repr

/-- What the acquisition library knows: callbacks run after `icm42688_start` was called and
until an `icm42688_stop` has returned OK. -/
structure Driver where
  startCalled : Bool
  stoppedOk : Bool
  inCallback : Bool
  deriving DecidableEq, Repr

/-- The members of `ImuLifecycleCore`, the driver, and the history of the run. -/
structure Core (P : Type) where
  ring : Ring (PendingSample P) 64 kPendingCapacity
  publisherStop : Bool
  failureNotified : Bool
  publisher : ThreadStatus
  handle : Option Handle
  sink : Bool
  notifier : Bool
  admission : Bool
  failed : Bool
  stopFailed : Bool
  sourceCount : Counter
  sourceFirstNs : UInt64
  metrics : Metrics
  metricsEnabled : Bool
  startClaimed : Bool
  startAttempted : Bool
  terminal : Bool
  driver : Driver
  admitted : List (PendingSample P)
  taken : Nat
  handed : List (Sample P)
  events : List Event
  notifications : Nat
  incidents : List Incident

namespace Core
variable {P : Type}

def init [Inhabited P] : Core P where
  ring := ⟨fun _ => default, 0, 0⟩
  publisherStop := false
  failureNotified := false
  publisher := .none
  handle := none
  sink := false
  notifier := false
  admission := false
  failed := false
  stopFailed := false
  sourceCount := .zero
  sourceFirstNs := 0
  metrics := .new .kNone
  metricsEnabled := false
  startClaimed := false
  startAttempted := false
  terminal := false
  driver := ⟨false, false, false⟩
  admitted := []
  taken := 0
  handed := []
  events := []
  notifications := 0
  incidents := []

def emit (s : Core P) (e : Event) : Core P := { s with events := s.events ++ [e] }

theorem mem_emit {s : Core P} {e e' : Event} : e' ∈ (s.emit e).events ↔ e' ∈ s.events ∨ e' = e :=
  List.mem_append.trans (or_congr_right List.mem_singleton)

def incident (s : Core P) (i : Incident) : Core P := { s with incidents := s.incidents ++ [i] }

def returnCallback (s : Core P) : Core P :=
  { s with driver := { s.driver with inCallback := false } }

end Core

/-! ### The acquisition callback -/

inductive ProducerPc (P : Type) where
  | idle
  | loadSourceCount (sample : Option (Sample P)) (arrivalNs : UInt64)
  | storeSourceFirst (sample : Option (Sample P)) (arrivalNs : UInt64)
  | addSourceCount (sample : Option (Sample P)) (arrivalNs : UInt64)
  | loadAdmission (sample : Option (Sample P)) (arrivalNs : UInt64)
  | loadWrite (pending : PendingSample P)
  | loadRead (pending : PendingSample P) (write : BitVec 64)
  | fillSlot (pending : PendingSample P) (write : BitVec 64)
  | storeWrite (pending : PendingSample P) (write : BitVec 64)
  | closeAdmission
  | storeFailed

inductive ProducerAct (P : Type) where
  | callback (sample : Option (Sample P)) (nowNs : UInt64)
  | step

def sampleTrampoline {P : Type} : ProducerAct P → Core P → ProducerPc P →
    Option (Core P × ProducerPc P)
  -- libicm42688 calls back after `icm42688_start`, until `icm42688_stop` has succeeded
  | .callback sample nowNs, s, .idle =>
    if s.driver.startCalled && !s.driver.stoppedOk then
      some ({ s with driver := { s.driver with inCallback := true } },
        if s.metricsEnabled && wellFormed sample then .loadSourceCount sample nowNs
        else .loadAdmission sample 0)
    else none
  -- no one access: a snapshot may fall in between
  | .step, s, .loadSourceCount sample arrivalNs =>
    some (s, if s.sourceCount.load = 0 then .storeSourceFirst sample arrivalNs
      else .addSourceCount sample arrivalNs)
  | .step, s, .storeSourceFirst sample arrivalNs =>
    some ({ s with sourceFirstNs := arrivalNs }, .addSourceCount sample arrivalNs)
  | .step, s, .addSourceCount sample arrivalNs =>
    some ({ s with sourceCount := s.sourceCount.fetchAdd 1 }, .loadAdmission sample arrivalNs)
  | .step, s, .loadAdmission sample arrivalNs =>
    if s.admission then
      match sample with
      | none => some (s.incident .malformedSample, .closeAdmission)
      | some sample =>
        if sample.structSize = sampleStructSize then some (s, .loadWrite ⟨sample, arrivalNs⟩)
        else some (s.incident .malformedSample, .closeAdmission)
    else some (s.returnCallback, .idle)
  | .step, s, .loadWrite pending => some (s, .loadRead pending s.ring.write)
  -- the distance of two machine words, which may have wrapped
  | .step, s, .loadRead pending write =>
    if write - s.ring.read = BitVec.ofNat 64 kPendingCapacity then
      some (s.incident .ringOverflow, .closeAdmission)
    else some (s, .fillSlot pending write)
  | .step, s, .fillSlot pending write =>
    some ({ s with ring := s.ring.putSlot write pending }, .storeWrite pending write)
  -- the release store: only now the publisher can see the slot
  | .step, s, .storeWrite pending write =>
    some ({ s.returnCallback with
      ring := s.ring.advanceWrite write, admitted := s.admitted ++ [pending] }, .idle)
  | .step, s, .closeAdmission => some ({ s with admission := false }, .storeFailed)
  | .step, s, .storeFailed => some ({ s.returnCallback with failed := true }, .idle)
  | _, _, _ => none

/-! ### The publisher thread -/

inductive PublisherPc (P : Type) where
  | loadFailed
  | loadRead
  | loadWrite (read : BitVec 64)
  | copySlot (read : BitVec 64)
  | storeRead (read : BitVec 64) (pending : PendingSample P)
  | record (accesses : List Access) (then_ : PublisherPc P)
  | callSink (pending : PendingSample P)
  | stampImu
  | publishImu
  | publishTemperature
  | closeAdmission
  | storeFailed
  | exchangeNotified
  | callNotifier
  | loadStop (read : BitVec 64)
  | reloadWrite (read : BitVec 64)
  | finished

inductive PublisherAct where
  | step
  | spurious
  | returns (latencyNs : UInt64)
  | throws
  deriving DecidableEq, Repr

/-- `core_.Record...` of the sink: nothing when the metrics are disabled. -/
def recordIf {P : Type} (s : Core P) (accesses : List Access) (then_ : PublisherPc P) :
    PublisherPc P :=
  if s.metricsEnabled then .record accesses then_ else then_

/-- `PublishLoop` with `PublishSample` as its sink; `temperature` tells whether the
temperature topic is published. -/
def publishLoop {P : Type} (temperature : Bool) : PublisherAct → Core P → PublisherPc P →
    Option (Core P × PublisherPc P)
  | .step, s, .loadFailed => some (s, if s.failed then .storeFailed else .loadRead)
  | .step, s, .loadRead => some (s, .loadWrite s.ring.read)
  | .step, s, .loadWrite read =>
    some (s, if read ≠ s.ring.write then .copySlot read else .loadStop read)
  | .step, s, .copySlot read => some (s, .storeRead read (s.ring.front read))
  | .step, s, .storeRead read pending =>
    some ({ s with ring := s.ring.advanceRead read, taken := s.taken + 1 },
      recordIf s (recordSourceWithoutSequence pending.sample.sampleTimestampNs pending.arrivalNs)
        (.callSink pending))
  | .step, s, .record [] then_ => some (s, then_)
  | .step, s, .record (access :: accesses) then_ =>
    let r := access.exec false s.metrics
    some ({ s with metrics := r.1 }, .record (r.2 ++ accesses) then_)
  -- `compare_exchange_weak` may fail for no reason
  | .spurious, s, .record (access :: accesses) then_ =>
    let r := access.exec true s.metrics
    some ({ s with metrics := r.1 }, .record (r.2 ++ accesses) then_)
  | .step, s, .callSink pending =>
    if s.sink then some ({ s with handed := s.handed ++ [pending.sample] }, .stampImu)
    else some (s.incident .sinkException, .closeAdmission)
  | .step, s, .stampImu => some (s, .publishImu)
  | .throws, s, .stampImu => some (s.incident .sinkException, .closeAdmission)
  | .returns latencyNs, s, .publishImu =>
    some (s, recordIf s (recordPublishSuccess latencyNs) .publishTemperature)
  -- `PublishSample` counts the failure and throws again
  | .throws, s, .publishImu =>
    some (s.incident .sinkException, recordIf s recordPublishFailure .closeAdmission)
  | .step, s, .publishTemperature =>
    some (s, if temperature then recordIf s recordAuxiliaryPublishSuccess .loadFailed
      else .loadFailed)
  | .throws, s, .publishTemperature =>
    if temperature then
      some (s.incident .sinkException, recordIf s recordPublishFailure .closeAdmission)
    else none
  | .step, s, .closeAdmission => some ({ s with admission := false }, .storeFailed)
  | .step, s, .storeFailed => some ({ s with failed := true }, .exchangeNotified)
  | .step, s, .exchangeNotified =>
    if !s.failureNotified && s.notifier then
      some ({ s with failureNotified := true }, .callNotifier)
    else
      some ({ s with failureNotified := true, publisher := .finished }, .finished)
  | .step, s, .callNotifier =>
    some ({ s with notifications := s.notifications + 1, publisher := .finished }, .finished)
  | .step, s, .loadStop read =>
    some (s, if s.publisherStop then .reloadWrite read else .loadFailed)
  -- the ring was empty before the stop was seen; it may not be any more
  | .step, s, .reloadWrite read =>
    if read = s.ring.write then some ({ s with publisher := .finished }, .finished)
    else some (s, .loadFailed)
  | _, _, _ => none

/-! ### Start, Stop and the destructor -/

inductive StopSite where
  | startFailure
  | stop
  deriving DecidableEq, Repr

inductive OwnerOp where
  | startGuard (config : CoreConfig) (sink notifier : Bool)
  | create (config : CoreConfig)
  | destroyCandidate (handle : Handle)
  | setCallback
  | storeAdmission (value : Bool)
  | spawnPublisher
  | driverStart
  | driverStartReturn
  | stopGuard
  | driverStop
  | driverStopReturn (site : StopSite)
  | storeStopFailed
  | storePublisherStop
  | joinPublisher
  | destroyHandle
  | setTerminal
  | storeFailed
  | exchangeNotified
  | callNotifier
  | clearSink
  | clearNotifier
  | returnStart (result : Bool)
  | returnStop (result : Bool)
  deriving DecidableEq, Repr

def recordFailure : List OwnerOp := [.storeFailed, .exchangeNotified]

def finishPublisher : List OwnerOp := [.storePublisherStop, .joinPublisher]

def abandonStart : List OwnerOp :=
  [.storeAdmission false, .destroyHandle, .setTerminal] ++ recordFailure ++ [.returnStart false]

def startFailureTail (status : Status) : List OwnerOp :=
  (if status ≠ statusOk then [.storeStopFailed] else []) ++ finishPublisher ++
    [.destroyHandle, .setTerminal] ++ recordFailure ++
    [.clearSink, .clearNotifier, .returnStart false]

def stopTail (status : Status) : List OwnerOp :=
  (if status ≠ statusOk then [.storeStopFailed] else []) ++ [.storeAdmission false] ++
    finishPublisher ++ [.destroyHandle] ++
    (if status ≠ statusOk then recordFailure else []) ++
    [.clearSink, .clearNotifier, .returnStop (status == statusOk)]

def afterStop : StopSite → Status → List OwnerOp
  | .startFailure, status => startFailureTail status
  | .stop, status => stopTail status

inductive Reply where
  | done
  | created (status : Status) (handle : Option Handle)
  | status (code : Status)
  | spawned (ok : Bool)
  deriving DecidableEq, Repr

/-- One instruction. `rest` is the code after it; a branch leaves it for other code. -/
def OwnerOp.exec {P : Type} (s : Core P) (rest : List OwnerOp) :
    OwnerOp → Reply → Option (Core P × List OwnerOp)
  | .startGuard config sink notifier, .done =>
    if s.startClaimed || s.terminal then some (s, [.returnStart false])
    else some ({ s with startClaimed := true, sink := sink, notifier := notifier,
                        metricsEnabled := config.rateMetricsEnabled }, [.create config])
  -- a handle that comes with an error is destroyed, and is never stored
  | .create config, .created status handle =>
    let s' := s.emit (.create config status handle)
    match handle with
    | none => some (s', [.setTerminal] ++ recordFailure ++ [.returnStart false])
    | some h =>
      if status ≠ statusOk then
        some (s', [.destroyCandidate h, .setTerminal] ++ recordFailure ++ [.returnStart false])
      else some ({ s' with handle := some h }, [.setCallback])
  | .destroyCandidate h, .done => some (s.emit (.destroy (some h)), rest)
  | .setCallback, .status code =>
    some (s.emit (.setCallback s.handle code),
      if code ≠ statusOk then abandonStart else [.storeAdmission true, .spawnPublisher])
  | .storeAdmission value, .done => some ({ s with admission := value }, rest)
  | .spawnPublisher, .spawned ok =>
    if ok then some ({ s.emit (.spawnPublisher true) with publisher := .running }, [.driverStart])
    else some (s.emit (.spawnPublisher false), abandonStart)
  | .driverStart, .done =>
    some ({ s.emit (.start s.handle) with
      startAttempted := true, driver := { s.driver with startCalled := true } },
      [.driverStartReturn])
  | .driverStartReturn, .status code =>
    some (s, if code ≠ statusOk then
        [.storeAdmission false, .driverStop, .driverStopReturn .startFailure]
      else [.returnStart true])
  | .stopGuard, .done =>
    if s.terminal && s.handle.isNone then some (s, [.returnStop (!s.stopFailed)])
    else some ({ s with terminal := true },
      if s.handle.isSome && s.startAttempted then [.driverStop, .driverStopReturn .stop]
      else stopTail statusOk)
  | .driverStop, .done => some (s.emit (.stop s.handle), rest)
  -- a stop that succeeds has waited for the callback that was running
  | .driverStopReturn site, .status code =>
    if code = statusOk then
      if s.driver.inCallback then none
      else some ({ s.emit (.stopReturned code) with
        driver := { s.driver with stoppedOk := true } }, afterStop site code)
    else some ((s.emit (.stopReturned code)).incident .stopFailed, afterStop site code)
  | .storeStopFailed, .done => some ({ s with stopFailed := true }, rest)
  | .storePublisherStop, .done => some ({ s with publisherStop := true }, rest)
  | .joinPublisher, .done =>
    -- a thread that was not spawned, or is joined already, is not joinable
    match s.publisher with
    | .running => none
    | .finished => some ({ s.emit .joinPublisher with publisher := .joined }, rest)
    | _ => some (s, rest)
  | .destroyHandle, .done =>
    match s.handle with
    | some h => some ({ s.emit (.destroy (some h)) with handle := none }, rest)
    | none => some (s, rest)
  | .setTerminal, .done => some ({ s with terminal := true }, rest)
  | .storeFailed, .done => some ({ s with failed := true }, rest)
  | .exchangeNotified, .done =>
    some ({ s with failureNotified := true },
      if !s.failureNotified && s.notifier then .callNotifier :: rest else rest)
  -- an exception of the notifier is swallowed
  | .callNotifier, .done => some ({ s with notifications := s.notifications + 1 }, rest)
  | .clearSink, .done => some ({ s.emit .clearSink with sink := false }, rest)
  | .clearNotifier, .done => some ({ s.emit .clearNotifier with notifier := false }, rest)
  | .returnStart result, .done => some (s.emit (.returnStart result), [])
  | .returnStop result, .done => some (s.emit (.returnStop result), [])
  | _, _ => none

structure OwnerLocal where
  ops : List OwnerOp
  destructed : Bool
  deriving DecidableEq, Repr

inductive OwnerAct where
  | start (config : CoreConfig) (sink notifier : Bool)
  | stop
  | destruct
  | reply (r : Reply)
  deriving DecidableEq, Repr

/-- The destructor is one last `Stop`, after which nothing is called any more. -/
def ownerStep {P : Type} : OwnerAct → Core P → OwnerLocal → Option (Core P × OwnerLocal)
  | .start config sink notifier, s, ⟨[], false⟩ =>
    some (s, ⟨[.startGuard config sink notifier], false⟩)
  | .stop, s, ⟨[], false⟩ => some (s, ⟨[.stopGuard], false⟩)
  | .destruct, s, ⟨[], false⟩ => some (s, ⟨[.stopGuard], true⟩)
  | .reply r, s, ⟨op :: ops, destructed⟩ =>
    (op.exec s ops r).map fun x => (x.1, ⟨x.2, destructed⟩)
  | _, _, _ => none

/-! ### The interleaving -/

inductive Thread where
  | owner
  | producer
  | publisher
  deriving DecidableEq, Repr

def Local (P : Type) : Thread → Type
  | .owner => OwnerLocal
  | .producer => ProducerPc P
  | .publisher => PublisherPc P

def Act (P : Type) : Thread → Type
  | .owner => OwnerAct
  | .producer => ProducerAct P
  | .publisher => PublisherAct

def threads (P : Type) [Inhabited P] (temperature : Bool) :
    Transition.Threads Thread (Core P) (Local P) (Act P) where
  shared := .init
  locals
    | .owner => (⟨[], false⟩ : OwnerLocal)
    | .producer => (.idle : ProducerPc P)
    | .publisher => (.loadFailed : PublisherPc P)
  step
    | .owner, a, s, l => ownerStep a s l
    | .producer, a, s, l => sampleTrampoline a s l
    | .publisher, a, s, l => if s.publisher = .running then publishLoop temperature a s l else none

end RoboBaton.Imu
