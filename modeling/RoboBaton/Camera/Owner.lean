import RoboBaton.Camera.Lifecycle
import RoboBaton.Library.Discipline
import RoboBaton.Library.Trace

/-! What the instructions of `Start`, `Cleanup` and the failure handlers rely on, and what the
history of calls tells about the members of the core. -/

namespace RoboBaton.Camera
open Trace
variable {D : Type}

def failureOps : List CommonOp := closeAdmissionAndRequestStop ++ recordFailure

def CommonOp.Done (s : Core D) : CommonOp → Prop
  | .storeAccepting => s.admissionClosed = true
  | .exchangeClosed => s.acceptingClosed = true
  | .exchangeStop => s.stopRequested = true
  | .closeQueue c => ∀ q, s.queues c = some q → q.stopped = true
  | .exchangeFailed => s.failed = true
  | .access .. => True
  | .requestStop => True
  | .callNotifier => True

inductive Fact
  | done (op : CommonOp)
  | blamed
  | recorded
  | claimed
  | virgin
  | noQueue (c : CameraId)
  | noWorker (c : CameraId)
  | opened
  | unstarted
  | live
  | terminal
  | incomplete
  | complete
  | emptied (c : CameraId)
  | joined (c : CameraId)
  | stopCalled
  | stopped
  | finished
  | verdict (result : Bool)
  deriving DecidableEq

@[simp] def Fact.common : Fact → Bool
  | .done _ => true
  | .blamed => true
  | .claimed => true
  | _ => false

def Emptied (s : Core D) (c : CameraId) : Prop :=
  ∀ q, s.queues c = some q → q.stopped = true ∧ q.queue = []

def Joined (s : Core D) (c : CameraId) : Prop := s.workers c = .none ∨ s.workers c = .joined

/-- The cleanup of a failed `Start` is over: it is complete, or a worker was not joined. -/
def Finished (s : Core D) : Prop :=
  s.cleanupComplete = true ∨ ∃ c, .joinWorker c false ∈ s.events

def NoStart (es : List Event) : Prop := ∀ producer cameraMask, .startFrameSet producer cameraMask ∉ es

def Holds (s : Core D) : Fact → Prop
  | .done op => op.Done s
  | .blamed => s.incidents ≠ []
  | .recorded => ∀ i ∈ s.incidents, i.thread = .owner → s.failed = true
  | .claimed => s.startClaimed = true
  | .virgin => s.admissionOpened = false ∧ s.admissionClosed = false
  | .noQueue c => s.queues c = none
  | .noWorker c => s.workers c = .none
  | .opened => s.admissionOpened = true
  | .unstarted => NoStart s.events
  | .live => s.terminal = false
  | .terminal => s.terminal = true
  | .incomplete => s.cleanupComplete = false
  | .complete => s.cleanupComplete = true
  | .emptied c => Emptied s c
  | .joined c => Joined s c
  | .stopCalled => .stop ∈ s.events
  | .stopped => .stopReturned ∈ s.events
  | .finished => Finished s
  | .verdict result => result = true → s.startClaimed = true → s.cleanupComplete = true

open Discipline

@[simp] def commonContract : CommonOp → Contract Fact
  | .storeAccepting =>
    { needs := [.claimed], gives := [.done .storeAccepting], loses := [.virgin] }
  | .exchangeClosed => { gives := [.done .exchangeClosed] }
  | .exchangeStop => { needs := [.claimed], gives := [.done .exchangeStop] }
  | .closeQueue c => { needs := [.done .exchangeStop], gives := [.done (.closeQueue c)] }
  | .exchangeFailed => { needs := [.blamed], gives := [.done .exchangeFailed] }
  | .access .. => {}
  | .requestStop => { needs := [.claimed] }
  | .callNotifier => {}

@[simp] def commonRules (ends : List Fact) : Rules CommonOp Fact := ⟨commonContract, ends⟩

def closed : List Fact :=
  [.terminal, .done .storeAccepting, .done .exchangeStop] ++ cameras.map .emptied ++
    cameras.map .joined

@[simp] def rules : Rules OwnerOp Fact where
  ends := [.recorded]
  contract
    | .common op =>
      { commonContract op with
        gives := (commonContract op).gives ++ if op = .exchangeFailed then [.recorded] else [] }
    | .startGuard .. => { needs := [.recorded] }
    | .validateConfig =>
      { needs := [.claimed, .recorded, .virgin, .unstarted, .live, .incomplete] ++
          (cameras.map Fact.noQueue ++ cameras.map Fact.noWorker) }
    | .makeQueue c =>
      { needs := [.claimed, .virgin, .noQueue c, .incomplete]
        loses := [.noQueue c, .done (.closeQueue c), .emptied c] }
    | .openAdmission =>
      { needs := [.claimed, .virgin, .incomplete], gives := [.opened], loses := [.virgin] }
    | .setFps => { needs := [.claimed, .incomplete] }
    | .setOutputRotation => { needs := [.claimed, .incomplete] }
    | .spawnWorker c =>
      { needs := [.claimed, .opened, .live, .noWorker c, .incomplete]
        loses := [.noWorker c, .joined c] }
    | .startFrameSet => { needs := [.claimed, .unstarted, .incomplete], loses := [.unstarted] }
    | .startFrameSetReturn => { needs := [.claimed, .incomplete] }
    | .setRunning => {}
    | .cleanupGuard .start => { needs := [.claimed, .recorded] }
    | .cleanupGuard .cleanup => { needs := [.recorded] }
    | .setTerminal => { needs := [.claimed], gives := [.terminal], loses := [.live] }
    | .detachQueue c => { needs := [.incomplete, .done .exchangeStop], gives := [.emptied c] }
    | .clearBatches => {}
    | .joinWorker _ c =>
      { needs := [.claimed, .terminal, .incomplete], gives := [.joined c], loses := [.noWorker c] }
    | .storeUnquiesced => { needs := [.incomplete] }
    | .stop => { needs := .claimed :: closed, gives := [.stopCalled] }
    | .stopReturn => { needs := [.stopCalled], gives := [.stopped] }
    | .finishCleanup =>
      { needs := [.stopped, .terminal], gives := [.complete, .finished, .verdict true]
        loses := [.incomplete] }
    | .clearSink => {}
    | .clearNotifier => {}
    | .returnStart .failed => { needs := [.claimed, .recorded, .terminal, .finished] }
    | .returnStart .started => { needs := [.claimed, .recorded] }
    | .returnStart .rejected => { needs := [.claimed, .recorded] }
    | .returnCleanup result => { needs := [.recorded, .verdict result] }

def Allowed (pre : List Event) : Event → Prop
  | .startFrameSet .. => NoStart pre
  | .stop => ∀ c, .spawnWorker c true ∈ pre → .joinWorker c true ∈ pre
  | _ => True

/-- What the history tells about the members. -/
structure Ledger (s : Core D) : Prop where
  unclaimed : s.startClaimed = false → s.admissionOpened = false ∧ s.admissionClosed = false ∧
    s.stopRequested = false ∧ (∀ c, s.queues c = none) ∧ (∀ c, s.workers c = .none) ∧
    NoStart s.events ∧ s.terminal = false ∧ s.cleanupComplete = false
  accepting : s.accepting = true → s.admissionOpened = true ∧ s.admissionClosed = false
  workers : ∀ c, s.workers c ≠ .none → s.admissionOpened = true
  stoppedQueue : ∀ c q, s.queues c = some q → q.stopped = true → s.stopRequested = true
  stop : .stop ∈ s.events → s.startClaimed = true ∧ ∀ f ∈ closed, Holds s f
  stopReturned : .stopReturned ∈ s.events → .stop ∈ s.events
  complete : s.cleanupComplete = true → .stopReturned ∈ s.events ∧ s.cleanupQuiesced = true
  returned : .returnCleanup true true ∈ s.events → s.cleanupComplete = true
  startReturned : ∀ r, .returnStart r ∈ s.events → s.startClaimed = true
  startFailed : .returnStart .failed ∈ s.events → s.terminal = true ∧ Finished s
  handled : (.callbackFailed ∈ s.events ∨ ∃ c, .workerFailed c ∈ s.events) →
    s.admissionOpened = true ∧ ∀ op ∈ failureOps, op.Done s
  spawned : ∀ c, .spawnWorker c true ∈ s.events → s.workers c ≠ .none
  joined : ∀ c, s.workers c = .joined → .joinWorker c true ∈ s.events
  failed : s.failed = true → s.incidents ≠ []
  ordered : Ordered Allowed s.events

def Supported (s : Core D) : Event → Prop
  | .startFrameSet .. => s.startClaimed = true
  | .stop => s.startClaimed = true ∧ ∀ f ∈ closed, Holds s f
  | .stopReturned => .stop ∈ s.events
  | .returnCleanup claimed result => claimed = true → result = true → s.cleanupComplete = true
  | .returnStart result => s.startClaimed = true ∧
      (result = .failed → s.terminal = true ∧ Finished s)
  | .callbackFailed => s.admissionOpened = true ∧ ∀ op ∈ failureOps, op.Done s
  | .workerFailed _ => s.admissionOpened = true ∧ ∀ op ∈ failureOps, op.Done s
  | .spawnWorker c ok => ok = true → s.workers c ≠ .none
  | .setFps .. => True
  | .setOutputRotation .. => True
  | .requestStop => True
  | .joinWorker .. => True

end RoboBaton.Camera
