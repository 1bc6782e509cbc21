import RoboBaton.Camera.Callback
import RoboBaton.Camera.Worker
import RoboBaton.Library.Threads

/-! `Start` and `Cleanup`, and the interleaving of all threads of the core. The callers of
`Start` and `Cleanup` are serialised by `lifecycle_mutex_`; the rest of the call that runs is
a list of instructions. -/

namespace RoboBaton.Camera

inductive CleanupSite
  | start
  | cleanup
  deriving DecidableEq, Repr

inductive OwnerOp
  | common (op : CommonOp)
  | startGuard (config : CameraCoreConfig) (sink notifier : Bool)
  | validateConfig
  | makeQueue (c : CameraId)
  | openAdmission
  | setFps
  | setOutputRotation
  | spawnWorker (c : CameraId)
  | startFrameSet
  | startFrameSetReturn
  | setRunning
  | cleanupGuard (site : CleanupSite)
  | setTerminal
  | detachQueue (c : CameraId)
  | clearBatches
  | joinWorker (site : CleanupSite) (c : CameraId)
  | storeUnquiesced
  | stop
  | stopReturn
  | finishCleanup
  | clearSink
  | clearNotifier
  | returnStart (result : StartResult)
  | returnCleanup (result : Bool)
  deriving DecidableEq, Repr

/-- Where `CleanupLocked` returns to: a failed `Start` ignores its result. -/
def returnFrom : CleanupSite → Bool → List OwnerOp
  | .start, _ => [.returnStart .failed]
  | .cleanup, result => [.returnCleanup result]

/-- The `catch` block of `Start`, and its branch for an invalid configuration. -/
def startFailure : List OwnerOp := recordFailure.map .common ++ [.cleanupGuard .start]

def startBody : List OwnerOp :=
  cameras.map .makeQueue ++ [.openAdmission, .setFps, .setOutputRotation] ++
    cameras.map .spawnWorker ++ [.startFrameSet, .startFrameSetReturn, .setRunning,
    .returnStart .started]

def cleanupBody (site : CleanupSite) : List OwnerOp :=
  .setTerminal :: closeAdmissionAndRequestStop.map .common ++ cameras.map .detachQueue ++
    .clearBatches :: cameras.map (.joinWorker site) ++
    [.stop, .stopReturn, .stop, .stopReturn, .finishCleanup, .clearSink, .clearNotifier] ++
    returnFrom site true

def joinFailure (site : CleanupSite) : List OwnerOp :=
  .storeUnquiesced :: recordFailure.map .common ++ returnFrom site false

inductive OwnerAct
  | start (config : CameraCoreConfig) (sink notifier : Bool)
  | cleanup
  | step
  | status (code : Status)
  | throws
  deriving Repr

structure OwnerLocal where
  ops : List OwnerOp
  detached : List RetainedFrameJob

def failStart {D : Type} (s : Core D) (detached : List RetainedFrameJob) : Option (Core D × OwnerLocal) :=
  some (s.incident .startFailed, ⟨startFailure, detached⟩)

section Effects
variable {D : Type}

structure Quiet (s s' : Core D) : Prop where
  config : s'.config = s.config
  accepting : s'.accepting = s.accepting
  queues : s'.queues = s.queues
  workers : s'.workers = s.workers
  metrics : s'.metrics = s.metrics
  failed : s'.failed = s.failed
  acceptingClosed : s'.acceptingClosed = s.acceptingClosed
  stopRequested : s'.stopRequested = s.stopRequested
  startClaimed : s'.startClaimed = s.startClaimed
  inCallback : s'.inCallback = s.inCallback
  admissionOpened : s'.admissionOpened = s.admissionOpened
  admissionClosed : s'.admissionClosed = s.admissionClosed
  retained : s'.retained = s.retained
  released : s'.released = s.released
  sets : s'.sets = s.sets
  completed : s'.completed = s.completed
  arrivals : s'.arrivals = s.arrivals
  popped : s'.popped = s.popped
  incidents : ∃ is : List (Incident D), s'.incidents = s.incidents ++ is ∧ ∀ i ∈ is, i.thread = .owner

inductive OwnerEffect (s : Core D) (detached : List RetainedFrameJob) :
    OwnerOp → Core D → List RetainedFrameJob → Prop
  | quiet (op s') (h : Quiet s s') : OwnerEffect s detached op s' detached
  | common (op : CommonOp) : OwnerEffect s detached (.common op) (op.exec false s).1 detached
  | claim (config sink notifier) (h : s.startClaimed = false) :
    OwnerEffect s detached (.startGuard config sink notifier)
      { s with startClaimed := true, config := config, sink := sink, notifier := notifier } detached
  | makeQueue (c) (h : s.config.cameraEnabled c = true) : OwnerEffect s detached (.makeQueue c)
      (s.setQueue c (.new s.config.queueCapacity s.config.dropNewest)) detached
  | openAdmission : OwnerEffect s detached .openAdmission
      { s with accepting := true, admissionOpened := true } detached
  | spawn (c) : OwnerEffect s detached (.spawnWorker c)
      ((s.emit (.spawnWorker c true)).setWorker c .running) detached
  | detach (c q) (hq : s.queues c = some q) : OwnerEffect s detached (.detachQueue c)
      (s.setQueue c q.stopAndDetach) (detached ++ q.queue)
  | release (job rest) (h : detached = job :: rest) :
    OwnerEffect s detached .clearBatches (s.release job) rest
  | join (site c) (h : s.workers c = .finished) : OwnerEffect s detached (.joinWorker site c)
      ((s.emit (.joinWorker c true)).setWorker c .joined) detached

theorem quiet_refl (s : Core D) : Quiet s s := by
  constructor <;> first | rfl | exact ⟨[], (List.append_nil _).symm, by simp⟩

theorem quiet_emit (s : Core D) (e : Event) : Quiet s (s.emit e) := { quiet_refl s with }

theorem Quiet.incident {s s' : Core D} (h : Quiet s s') {i : Incident D} (hi : i.thread = .owner) :
    Quiet s (s'.incident i) := by
  obtain ⟨is, heq, his⟩ := h.incidents
  refine { h with incidents := ⟨is ++ [i], ?_, ?_⟩ }
  · show s'.incidents ++ [i] = _
    rw [heq, List.append_assoc]
  · intro k hk
    rcases List.mem_append.mp hk with hk | hk
    · exact his k hk
    · exact List.mem_singleton.mp hk ▸ hi

end Effects

section Owner
variable {D : Type} [Fintype D]

def OwnerOp.exec (s : Core D) (detached : List RetainedFrameJob) (rest : List OwnerOp) :
    OwnerOp → OwnerAct → Option (Core D × OwnerLocal)
  | .common op, .step =>
    some ((op.exec false s).1, ⟨(op.exec false s).2.map .common ++ rest, detached⟩)
  | .startGuard config sink notifier, .step =>
    if s.startClaimed || s.terminal then some (s, ⟨[.returnStart .rejected], detached⟩)
    else some ({ s with startClaimed := true, config := config, sink := sink,
                        notifier := notifier }, ⟨[.validateConfig], detached⟩)
  | .validateConfig, .step =>
    if s.config.valid then some (s, ⟨startBody, detached⟩) else failStart s detached
  | .makeQueue c, .step =>
    if s.config.cameraEnabled c then
      some (s.setQueue c (.new s.config.queueCapacity s.config.dropNewest), ⟨rest, detached⟩)
    else some (s, ⟨rest, detached⟩)
  | .makeQueue c, .throws => if s.config.cameraEnabled c then failStart s detached else none
  | .openAdmission, .step =>
    some ({ s with accepting := true, admissionOpened := true }, ⟨rest, detached⟩)
  -- the status of libsc132 decides between the next line and the `catch` block
  | .setFps, .status code =>
    if code ≠ statusOk then failStart (s.emit (.setFps s.config.fps code)) detached
    else some (s.emit (.setFps s.config.fps code), ⟨rest, detached⟩)
  | .setOutputRotation, .status code =>
    if code ≠ statusOk then failStart (s.emit (.setOutputRotation s.config.rotation code)) detached
    else some (s.emit (.setOutputRotation s.config.rotation code), ⟨rest, detached⟩)
  | .spawnWorker c, .step =>
    if s.config.cameraEnabled c then
      some ((s.emit (.spawnWorker c true)).setWorker c .running, ⟨rest, detached⟩)
    else some (s, ⟨rest, detached⟩)
  -- the constructor of `std::thread` throws; the threads before it stay
  | .spawnWorker c, .throws =>
    if s.config.cameraEnabled c then failStart (s.emit (.spawnWorker c false)) detached else none
  | .startFrameSet, .step =>
    some ({ s.emit (.startFrameSet s.config.producer s.config.cameraMask) with startAttempted := true },
      ⟨rest, detached⟩)
  | .startFrameSetReturn, .status code =>
    if code ≠ statusOk then failStart s detached else some (s, ⟨rest, detached⟩)
  | .setRunning, .step => some ({ s with running := true }, ⟨rest, detached⟩)
  | .cleanupGuard site, .step =>
    if !s.startClaimed then some (s, ⟨returnFrom site true, detached⟩)
    else if s.cleanupComplete then some (s, ⟨returnFrom site s.cleanupQuiesced, detached⟩)
    else some (s, ⟨cleanupBody site, detached⟩)
  | .setTerminal, .step => some ({ s with terminal := true }, ⟨rest, detached⟩)
  | .detachQueue c, .step =>
    match s.queues c with
    | none => some (s, ⟨rest, detached⟩)
    | some q => some (s.setQueue c q.stopAndDetach, ⟨rest, detached ++ q.queue⟩)
  -- outside the queue locks, one frame after the other
  | .clearBatches, .step =>
    match detached with
    | [] => some (s, ⟨rest, []⟩)
    | job :: detached => some (s.release job, ⟨.clearBatches :: rest, detached⟩)
  | .joinWorker _ c, .step =>
    match s.workers c with
    | .running => none
    | .finished =>
      some ((s.emit (.joinWorker c true)).setWorker c .joined, ⟨rest, detached⟩)
    | .none => some (s, ⟨rest, detached⟩)
    | .joined => some (s, ⟨rest, detached⟩)
  -- `join` throws for a joinable thread only
  | .joinWorker site c, .throws =>
    if s.workers c = .running ∨ s.workers c = .finished then
      some ((s.emit (.joinWorker c false)).incident .joinFailed, ⟨joinFailure site, detached⟩)
    else none
  | .storeUnquiesced, .step => some ({ s with cleanupQuiesced := false }, ⟨rest, detached⟩)
  | .stop, .step => some (s.emit .stop, ⟨rest, detached⟩)
  -- `sc132_stop` waits for the callbacks that are running
  | .stopReturn, .step =>
    if ∀ d, s.inCallback d = false then some (s.emit .stopReturned, ⟨rest, detached⟩) else none
  | .finishCleanup, .step =>
    some ({ s with running := false, cleanupQuiesced := true, cleanupComplete := true },
      ⟨rest, detached⟩)
  | .clearSink, .step => some ({ s with sink := false }, ⟨rest, detached⟩)
  | .clearNotifier, .step => some ({ s with notifier := false }, ⟨rest, detached⟩)
  | .returnStart result, .step => some (s.emit (.returnStart result), ⟨[], detached⟩)
  | .returnCleanup result, .step =>
    some (s.emit (.returnCleanup s.startClaimed result), ⟨[], detached⟩)
  | _, _ => none

def ownerStep (a : OwnerAct) (s : Core D) (l : OwnerLocal) : Option (Core D × OwnerLocal) :=
  match l.ops with
  | [] =>
    match a with
    | .start config sink notifier =>
      some (s, ⟨[.startGuard config sink notifier], l.detached⟩)
    | .cleanup => some (s, ⟨[.cleanupGuard .cleanup], l.detached⟩)
    | _ => none
  | op :: ops => op.exec s l.detached ops a

/-- Everything that an instruction of `Start` or `Cleanup` can do, with its guards. `rest` is the
code after it. -/
inductive OwnerStep (s : Core D) (detached : List RetainedFrameJob) (rest : List OwnerOp) :
    OwnerOp → Core D → OwnerLocal → Prop
  | common (op : CommonOp) : OwnerStep s detached rest (.common op) (op.exec false s).1
      ⟨(op.exec false s).2.map .common ++ rest, detached⟩
  | rejected (config sink notifier) (hguard : s.startClaimed = true ∨ s.terminal = true) :
    OwnerStep s detached rest (.startGuard config sink notifier) s
      ⟨[.returnStart .rejected], detached⟩
  | claim (config sink notifier) (hclaim : s.startClaimed = false) (hopen : s.terminal = false) :
    OwnerStep s detached rest (.startGuard config sink notifier)
      { s with startClaimed := true, config := config, sink := sink, notifier := notifier }
      ⟨[.validateConfig], detached⟩
  | valid (hvalid : s.config.valid = true) :
    OwnerStep s detached rest .validateConfig s ⟨startBody, detached⟩
  | invalid (hvalid : s.config.valid = false) :
    OwnerStep s detached rest .validateConfig (s.incident .startFailed) ⟨startFailure, detached⟩
  | makeQueue (c) (henabled : s.config.cameraEnabled c = true) :
    OwnerStep s detached rest (.makeQueue c)
      (s.setQueue c (.new s.config.queueCapacity s.config.dropNewest)) ⟨rest, detached⟩
  | noQueue (c) (henabled : s.config.cameraEnabled c = false) :
    OwnerStep s detached rest (.makeQueue c) s ⟨rest, detached⟩
  | throwQueue (c) (henabled : s.config.cameraEnabled c = true) :
    OwnerStep s detached rest (.makeQueue c) (s.incident .startFailed) ⟨startFailure, detached⟩
  | openAdmission : OwnerStep s detached rest .openAdmission
      { s with accepting := true, admissionOpened := true } ⟨rest, detached⟩
  | setFps : OwnerStep s detached rest .setFps (s.emit (.setFps s.config.fps statusOk))
      ⟨rest, detached⟩
  | fpsRefused (code) (hcode : code ≠ statusOk) : OwnerStep s detached rest .setFps
      ((s.emit (.setFps s.config.fps code)).incident .startFailed) ⟨startFailure, detached⟩
  | setOutputRotation : OwnerStep s detached rest .setOutputRotation
      (s.emit (.setOutputRotation s.config.rotation statusOk)) ⟨rest, detached⟩
  | rotationRefused (code) (hcode : code ≠ statusOk) :
    OwnerStep s detached rest .setOutputRotation
      ((s.emit (.setOutputRotation s.config.rotation code)).incident .startFailed)
      ⟨startFailure, detached⟩
  | spawnWorker (c) (henabled : s.config.cameraEnabled c = true) :
    OwnerStep s detached rest (.spawnWorker c)
      ((s.emit (.spawnWorker c true)).setWorker c .running) ⟨rest, detached⟩
  | noWorker (c) (henabled : s.config.cameraEnabled c = false) :
    OwnerStep s detached rest (.spawnWorker c) s ⟨rest, detached⟩
  | throwSpawn (c) (henabled : s.config.cameraEnabled c = true) :
    OwnerStep s detached rest (.spawnWorker c)
      ((s.emit (.spawnWorker c false)).incident .startFailed) ⟨startFailure, detached⟩
  | startFrameSet : OwnerStep s detached rest .startFrameSet
      { s.emit (.startFrameSet s.config.producer s.config.cameraMask) with startAttempted := true } ⟨rest, detached⟩
  | started : OwnerStep s detached rest .startFrameSetReturn s ⟨rest, detached⟩
  | notStarted (code) (hcode : code ≠ statusOk) :
    OwnerStep s detached rest .startFrameSetReturn (s.incident .startFailed)
      ⟨startFailure, detached⟩
  | setRunning : OwnerStep s detached rest .setRunning { s with running := true } ⟨rest, detached⟩
  | unclaimed (site) (hclaim : s.startClaimed = false) :
    OwnerStep s detached rest (.cleanupGuard site) s ⟨returnFrom site true, detached⟩
  | cleaned (site) (hclaim : s.startClaimed = true) (hcomplete : s.cleanupComplete = true) :
    OwnerStep s detached rest (.cleanupGuard site) s ⟨returnFrom site s.cleanupQuiesced, detached⟩
  | cleanup (site) (hclaim : s.startClaimed = true) (hcomplete : s.cleanupComplete = false) :
    OwnerStep s detached rest (.cleanupGuard site) s ⟨cleanupBody site, detached⟩
  | setTerminal :
    OwnerStep s detached rest .setTerminal { s with terminal := true } ⟨rest, detached⟩
  | noQueueLeft (c) (hq : s.queues c = none) :
    OwnerStep s detached rest (.detachQueue c) s ⟨rest, detached⟩
  | detachQueue (c q) (hq : s.queues c = some q) : OwnerStep s detached rest (.detachQueue c)
      (s.setQueue c q.stopAndDetach) ⟨rest, detached ++ q.queue⟩
  | batchesCleared (hempty : detached = []) :
    OwnerStep s detached rest .clearBatches s ⟨rest, detached⟩
  | clearBatch (job more) (hjob : detached = job :: more) :
    OwnerStep s detached rest .clearBatches (s.release job) ⟨.clearBatches :: rest, more⟩
  | joinWorker (site c) (hfinished : s.workers c = .finished) :
    OwnerStep s detached rest (.joinWorker site c)
      ((s.emit (.joinWorker c true)).setWorker c .joined) ⟨rest, detached⟩
  | notJoinable (site c) (hstill : s.workers c = .none ∨ s.workers c = .joined) :
    OwnerStep s detached rest (.joinWorker site c) s ⟨rest, detached⟩
  | throwJoin (site c) (hspawned : s.workers c = .running ∨ s.workers c = .finished) :
    OwnerStep s detached rest (.joinWorker site c)
      ((s.emit (.joinWorker c false)).incident .joinFailed) ⟨joinFailure site, detached⟩
  | storeUnquiesced : OwnerStep s detached rest .storeUnquiesced
      { s with cleanupQuiesced := false } ⟨rest, detached⟩
  | stop : OwnerStep s detached rest .stop (s.emit .stop) ⟨rest, detached⟩
  | stopReturn (hidle : ∀ d, s.inCallback d = false) :
    OwnerStep s detached rest .stopReturn (s.emit .stopReturned) ⟨rest, detached⟩
  | finishCleanup : OwnerStep s detached rest .finishCleanup
      { s with running := false, cleanupQuiesced := true, cleanupComplete := true }
      ⟨rest, detached⟩
  | clearSink : OwnerStep s detached rest .clearSink { s with sink := false } ⟨rest, detached⟩
  | clearNotifier :
    OwnerStep s detached rest .clearNotifier { s with notifier := false } ⟨rest, detached⟩
  | returnStart (result) : OwnerStep s detached rest (.returnStart result)
      (s.emit (.returnStart result)) ⟨[], detached⟩
  | returnCleanup (result) : OwnerStep s detached rest (.returnCleanup result)
      (s.emit (.returnCleanup s.startClaimed result)) ⟨[], detached⟩

theorem exec_step {s s' : Core D} {detached : List RetainedFrameJob} {rest : List OwnerOp}
    {op : OwnerOp} {a : OwnerAct} {l : OwnerLocal}
    (h : op.exec s detached rest a = some (s', l)) : OwnerStep s detached rest op s' l := by
  cases op with
  | common op => cases a <;> cases h; exact .common op
  | startGuard config sink notifier =>
    cases a <;> try cases h
    simp only [OwnerOp.exec] at h
    split at h <;> cases h
    · exact .rejected config sink notifier (Bool.or_eq_true_iff.mp ‹_›)
    · rename_i hguard
      obtain ⟨hclaim, hopen⟩ : s.startClaimed = false ∧ s.terminal = false := by
        simpa using hguard
      exact .claim config sink notifier hclaim hopen
  | validateConfig =>
    cases a <;> try cases h
    simp only [OwnerOp.exec] at h
    split at h <;> cases h
    · exact .valid ‹_›
    · exact .invalid (Bool.eq_false_iff.mpr ‹_›)
  | makeQueue c =>
    cases henabled : s.config.cameraEnabled c <;> cases a <;>
      simp only [OwnerOp.exec, henabled] at h <;> cases h
    · exact .noQueue c henabled
    · exact .makeQueue c henabled
    · exact .throwQueue c henabled
  | openAdmission => cases a <;> cases h; exact .openAdmission
  | setFps =>
    cases a <;> try cases h
    rename_i code
    simp only [OwnerOp.exec] at h
    split at h <;> cases h
    · exact .fpsRefused code ‹_›
    · rename_i hcode
      obtain rfl := not_not.mp hcode
      exact .setFps
  | setOutputRotation =>
    cases a <;> try cases h
    rename_i code
    simp only [OwnerOp.exec] at h
    split at h <;> cases h
    · exact .rotationRefused code ‹_›
    · rename_i hcode
      obtain rfl := not_not.mp hcode
      exact .setOutputRotation
  | spawnWorker c =>
    cases henabled : s.config.cameraEnabled c <;> cases a <;>
      simp only [OwnerOp.exec, henabled] at h <;> cases h
    · exact .noWorker c henabled
    · exact .spawnWorker c henabled
    · exact .throwSpawn c henabled
  | startFrameSet => cases a <;> cases h; exact .startFrameSet
  | startFrameSetReturn =>
    cases a <;> try cases h
    rename_i code
    simp only [OwnerOp.exec] at h
    split at h <;> cases h
    · exact .notStarted code ‹_›
    · exact .started
  | setRunning => cases a <;> cases h; exact .setRunning
  | cleanupGuard site =>
    cases a <;> try cases h
    simp only [OwnerOp.exec] at h
    split at h
    · rename_i hclaim
      cases h
      exact .unclaimed site (by simpa using hclaim)
    · rename_i hclaim
      have hclaim' : s.startClaimed = true := by simpa using hclaim
      split at h <;> cases h
      · exact .cleaned site hclaim' ‹_›
      · exact .cleanup site hclaim' (Bool.eq_false_iff.mpr ‹_›)
  | setTerminal => cases a <;> cases h; exact .setTerminal
  | detachQueue c =>
    cases a <;> try cases h
    cases hq : s.queues c <;> simp only [OwnerOp.exec, hq] at h <;> cases h
    · exact .noQueueLeft c hq
    · exact .detachQueue c _ hq
  | clearBatches =>
    cases detached <;> cases a <;> cases h
    · exact .batchesCleared rfl
    · exact .clearBatch _ _ rfl
  | joinWorker site c =>
    cases a with
    | step =>
      cases hworker : s.workers c <;> simp only [OwnerOp.exec, hworker] at h <;> cases h
      · exact .notJoinable site c (.inl hworker)
      · exact .joinWorker site c hworker
      · exact .notJoinable site c (.inr hworker)
    | throws =>
      simp only [OwnerOp.exec] at h
      split at h <;> cases h
      exact .throwJoin site c ‹_›
    | start => cases h
    | cleanup => cases h
    | status => cases h
  | storeUnquiesced => cases a <;> cases h; exact .storeUnquiesced
  | stop => cases a <;> cases h; exact .stop
  | stopReturn =>
    cases a <;> try cases h
    simp only [OwnerOp.exec] at h
    split at h <;> cases h
    exact .stopReturn ‹_›
  | finishCleanup => cases a <;> cases h; exact .finishCleanup
  | clearSink => cases a <;> cases h; exact .clearSink
  | clearNotifier => cases a <;> cases h; exact .clearNotifier
  | returnStart result => cases a <;> cases h; exact .returnStart result
  | returnCleanup result => cases a <;> cases h; exact .returnCleanup result

theorem exec_effect {s s' : Core D} {detached : List RetainedFrameJob} {rest : List OwnerOp}
    {op : OwnerOp} {a : OwnerAct} {l : OwnerLocal}
    (h : op.exec s detached rest a = some (s', l)) : OwnerEffect s detached op s' l.detached := by
  cases exec_step h with
  | common op => exact .common op
  | claim config sink notifier hclaim => exact .claim config sink notifier hclaim
  | makeQueue c henabled => exact .makeQueue c henabled
  | openAdmission => exact .openAdmission
  | spawnWorker c => exact .spawn c
  | detachQueue c q hq => exact .detach c q hq
  | clearBatch job more hjob => exact .release job more hjob
  | joinWorker site c hfinished => exact .join site c hfinished
  -- the failures of the owner
  | invalid | throwQueue | notStarted => exact .quiet _ _ ((quiet_refl s).incident rfl)
  | fpsRefused | rotationRefused | throwSpawn | throwJoin =>
    exact .quiet _ _ ((quiet_emit s _).incident rfl)
  | setFps | setOutputRotation | stop | stopReturn | returnStart | returnCleanup =>
    exact .quiet _ _ (quiet_emit s _)
  | startFrameSet | setRunning | setTerminal | storeUnquiesced | finishCleanup | clearSink
  | clearNotifier => exact .quiet _ _ { quiet_refl s with }
  | _ => exact .quiet _ _ (quiet_refl s)

theorem ownerStep_cases {a : OwnerAct} {s s' : Core D} {l l' : OwnerLocal}
    (h : ownerStep a s l = some (s', l')) :
    (s' = s ∧ l.ops = [] ∧ l'.detached = l.detached ∧
      ((∃ config sink notifier, l'.ops = [.startGuard config sink notifier]) ∨
        l'.ops = [.cleanupGuard .cleanup])) ∨
    ∃ op rest, l.ops = op :: rest ∧ op.exec s l.detached rest a = some (s', l') := by
  unfold ownerStep at h
  split at h
  · rename_i hops
    split at h <;> cases h
    · exact .inl ⟨rfl, hops, rfl, .inl ⟨_, _, _, rfl⟩⟩
    · exact .inl ⟨rfl, hops, rfl, .inr rfl⟩
  · rename_i op rest hops
    exact .inr ⟨op, rest, hops, h⟩

end Owner

/-! ### The interleaving -/

variable {D : Type}

def Local : Thread D → Type
  | .owner => OwnerLocal
  | .dispatcher _ => Code CallbackPc
  | .worker _ => Code WorkerPc

def Act : Thread D → Type
  | .owner => OwnerAct
  | .dispatcher _ => CallbackAct
  | .worker _ => WorkerAct

def threads (D : Type) [Fintype D] [DecidableEq D] (cameraInfo : Bool) :
    Transition.Threads (Thread D) (Core D) Local Act where
  shared := .init
  locals
    | .owner => (⟨[], []⟩ : OwnerLocal)
    | .dispatcher _ => (.of .idle : Code CallbackPc)
    | .worker _ => (.of .pop : Code WorkerPc)
  step
    | .owner, a, s, l => ownerStep a s l
    | .dispatcher d, a, s, l => frameSetTrampoline d a s l
    | .worker c, a, s, l => workerLoop cameraInfo c a s l

end RoboBaton.Camera
