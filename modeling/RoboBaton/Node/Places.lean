import RoboBaton.Camera.Progress
import RoboBaton.Imu.Progress
import RoboBaton.Node.ExitStatus

/-! Where the main thread is, there are its cores: a core has a call of `Start`, `Cleanup` or
`Stop` under way exactly while the main thread waits for it, whatever has been thrown. -/

namespace RoboBaton.Camera
open Discipline
variable {D : Type} [Fintype D] {s s' : Core D}

/-! ### Calls of the camera core -/

def OwnerOp.body (site : CleanupSite) : OwnerOp → Bool
  | .startGuard .. | .validateConfig | .cleanupGuard _ | .returnStart _ | .returnCleanup _ => false
  | .makeQueue _ | .openAdmission | .setFps | .setOutputRotation | .spawnWorker _ | .startFrameSet
  | .startFrameSetReturn | .setRunning => site == .start
  | .joinWorker site' _ => site' == site
  | _ => true

def OwnerOp.exit (site : CleanupSite) : OwnerOp → Bool
  | .startGuard .. | .validateConfig | .returnStart _ => site == .start
  | .cleanupGuard site' => site' == site
  | .returnCleanup _ => site == .cleanup
  | _ => false

def OwnerOp.isReturn : OwnerOp → Bool
  | .returnStart _ | .returnCleanup _ => true
  | _ => false

def inCall (site : CleanupSite) (ops : List OwnerOp) : Bool :=
  block (OwnerOp.body site) (OwnerOp.exit site) ops

theorem inCall_startBody : inCall .start startBody = true := by decide

theorem inCall_startFailure : inCall .start startFailure = true := by decide

theorem inCall_returnFrom (site : CleanupSite) (result : Bool) :
    inCall site (returnFrom site result) = true := by cases site <;> rfl

theorem inCall_cleanupBody (site : CleanupSite) : inCall site (cleanupBody site) = true := by
  cases site <;> decide

theorem inCall_joinFailure (site : CleanupSite) : inCall site (joinFailure site) = true := by
  cases site <;> decide

theorem exec_inCall {site : CleanupSite} {op : OwnerOp} {rest : List OwnerOp} {a : OwnerAct}
    {detached : List RetainedFrameJob} {l : OwnerLocal} (hcall : inCall site (op :: rest) = true)
    (hop : op.isReturn = false) (h : op.exec s detached rest a = some (s', l)) :
    inCall site l.ops = true := by
  have hhead := block_head hcall
  cases exec_step h with
  | common op =>
    refine block_prepend (block_rest hcall rfl) fun o ho => ?_
    obtain ⟨o, -, rfl⟩ := List.mem_map.mp ho
    rfl
  | rejected | claim =>
    obtain rfl : site = .start := by simpa [OwnerOp.body, OwnerOp.exit] using hhead
    rfl
  | valid =>
    obtain rfl : site = .start := by simpa [OwnerOp.body, OwnerOp.exit] using hhead
    exact inCall_startBody
  | invalid | throwQueue | fpsRefused | rotationRefused | throwSpawn | notStarted =>
    obtain rfl : site = .start := by simpa [OwnerOp.body, OwnerOp.exit] using hhead
    exact inCall_startFailure
  | unclaimed site' | cleaned site' =>
    obtain rfl : site' = site := by simpa [OwnerOp.body, OwnerOp.exit] using hhead
    exact inCall_returnFrom site' _
  | cleanup site' =>
    obtain rfl : site' = site := by simpa [OwnerOp.body, OwnerOp.exit] using hhead
    exact inCall_cleanupBody site'
  | throwJoin site' =>
    obtain rfl : site' = site := by simpa [OwnerOp.body, OwnerOp.exit] using hhead
    exact inCall_joinFailure site'
  | clearBatch => exact hcall
  | returnStart | returnCleanup => cases hop
  | _ => exact block_rest hcall rfl

end RoboBaton.Camera

namespace RoboBaton.Imu
open Discipline
variable {P : Type} {s s' : Core P}

/-! ### Calls of the IMU core -/

def OwnerOp.body : OwnerOp → Bool
  | .startGuard .. | .create _ | .setCallback | .spawnPublisher | .driverStart | .driverStartReturn
  | .stopGuard | .driverStopReturn _ | .returnStart _ | .returnStop _ => false
  | _ => true

def OwnerOp.exit (site : StopSite) : OwnerOp → Bool
  | .startGuard .. | .create _ | .setCallback | .spawnPublisher | .driverStart
  | .driverStartReturn | .returnStart _ => site == .startFailure
  | .driverStopReturn site' => site' == site
  | .stopGuard | .returnStop _ => site == .stop
  | _ => false

def OwnerOp.isReturn : OwnerOp → Bool
  | .returnStart _ | .returnStop _ => true
  | _ => false

def inCall (site : StopSite) (ops : List OwnerOp) : Bool := block OwnerOp.body (OwnerOp.exit site) ops

theorem inCall_afterStop (site : StopSite) (status : Status) :
    inCall site (afterStop site status) = true := by
  by_cases hok : status = statusOk <;> cases site <;>
    simp [afterStop, startFailureTail, stopTail, finishPublisher, recordFailure, hok, inCall, block,
      OwnerOp.body, OwnerOp.exit]

theorem exec_inCall {site : StopSite} {op : OwnerOp} {rest ops : List OwnerOp} {r : Reply}
    (hcall : inCall site (op :: rest) = true) (hop : op.isReturn = false)
    (h : op.exec s rest r = some (s', ops)) : inCall site ops = true := by
  have hhead := block_head hcall
  cases exec_step h with
  | rejected | claim | noHandle | badStatus | created | callbackSet | callbackRefused | spawned
  | notSpawned | driverStart | started | notStarted =>
    obtain rfl : site = .startFailure := by simpa [OwnerOp.body, OwnerOp.exit] using hhead
    rfl
  | stopped | stopDriver =>
    obtain rfl : site = .stop := by simpa [OwnerOp.body, OwnerOp.exit] using hhead
    rfl
  | stopIdle =>
    obtain rfl : site = .stop := by simpa [OwnerOp.body, OwnerOp.exit] using hhead
    exact inCall_afterStop .stop statusOk
  | driverStopped site' | driverStopFailed site' =>
    obtain rfl : site' = site := by simpa [OwnerOp.body, OwnerOp.exit] using hhead
    exact inCall_afterStop site' _
  | notify =>
    show inCall site ([.callNotifier] ++ rest) = true
    exact block_prepend (block_rest hcall rfl) (by decide)
  | returnStart | returnStop => cases hop
  | _ => exact block_rest hcall rfl

end RoboBaton.Imu

namespace RoboBaton.Node
open Transition Discipline
variable {D P : Type} {s t : Process D P}

/-! ### What the main thread knows of the calls -/

inductive Place
  | cameraIdle
  | cameraStarting
  | cameraCleaning
  | imuIdle
  | imuLive
  | imuStarting
  | imuStopping
  | imuDestroying
  deriving DecidableEq

def At (s : Process D P) : Place → Prop
  | .cameraIdle => s.cameraCall = []
  | .cameraStarting => Camera.inCall .start s.cameraCall = true
  | .cameraCleaning => Camera.inCall .cleanup s.cameraCall = true
  | .imuIdle => s.imuCall = []
  | .imuLive => (s.imu.locals .owner : Imu.OwnerLocal).destructed = false
  | .imuStarting => Imu.inCall .startFailure s.imuCall = true
  | .imuStopping => Imu.inCall .stop s.imuCall = true
  | .imuDestroying => s.imuPublisher = none ∨ Imu.inCall .stop s.imuCall = true

/-- No call is under way: what every way out of the loop and out of the `try` block needs. -/
def unoccupied : List Place := [.cameraIdle, .imuIdle, .imuLive]

def cameraPlaces : List Place := [.cameraIdle, .cameraStarting, .cameraCleaning]

def imuPlaces : List Place := [.imuIdle, .imuLive, .imuStarting, .imuStopping, .imuDestroying]

@[simp] def placeRules : Rules MainOp Place where
  ends := []
  contract
    | .startImu => { needs := unoccupied, gives := [.imuStarting, .imuLive], loses := imuPlaces }
    | .startImuReturn =>
      { needs := [.cameraIdle, .imuLive, .imuStarting], gives := [.imuIdle, .imuLive]
        loses := imuPlaces }
    | .startCamera => { needs := unoccupied, gives := [.cameraStarting], loses := cameraPlaces }
    | .startCameraReturn =>
      { needs := [.cameraStarting, .imuIdle, .imuLive], gives := [.cameraIdle]
        loses := cameraPlaces }
    | .cleanupCamera =>
      { needs := [.cameraIdle], gives := [.cameraCleaning], loses := cameraPlaces }
    | .cleanupCameraReturn =>
      { needs := [.cameraCleaning], gives := [.cameraIdle], loses := cameraPlaces }
    | .stopImuCore =>
      { needs := [.imuIdle, .imuLive], gives := [.imuStopping, .imuLive], loses := imuPlaces }
    | .stopImuCoreReturn =>
      { needs := [.imuStopping, .imuLive], gives := [.imuIdle, .imuLive], loses := imuPlaces }
    | .destroyImuCore =>
      { needs := [.imuIdle, .imuLive], gives := [.imuDestroying], loses := imuPlaces }
    | .destroyImuCoreReturn => { needs := [.imuDestroying], loses := imuPlaces }
    | .stopCamera =>
      { needs := [.cameraIdle], gives := [.cameraIdle], loses := cameraPlaces }
    | .stopImu =>
      { needs := [.imuIdle, .imuLive], gives := [.imuIdle, .imuLive], loses := imuPlaces }
    | .makeImu => { needs := unoccupied, loses := [.imuDestroying] }
    | .loadImuFailed => { loses := [.imuDestroying] }
    -- these may throw, or leave the loop
    | .loadParameters | .startImuTimer | .makeCamera | .configureCamera | .startCameraTimer
    | .addNode | .removeNode | .spinOnce | .loadStopRequested | .loadOk | .loadProcessFailed =>
      { needs := unoccupied }
    | .loadCameraFailed | .exitProcess | .resetCamera | .resetImu | .catchError | .shutdown
    | .returnExitCode => {}

section Programs
variable {known : Place → Prop}

theorem places_afterLoop (h : ∀ f ∈ unoccupied, known f) : placeRules.Safe known afterLoop := by
  simp [unoccupied] at h
  simp [afterLoop, stopPublishers, destroyCamera, destroyImu, leave, unoccupied,
    cameraPlaces, imuPlaces, h]

theorem places_loop {rest : List MainOp} (h : ∀ f ∈ unoccupied, known f)
    (hrest : placeRules.Safe known rest) : placeRules.Safe known (loop ++ rest) :=
  ⟨by simpa using h, by simpa using h, by simpa using h, by simpa using h,
    hrest.mono fun f hf => by simp [hf]⟩

theorem places_main (parameters : Parameters) (h : ∀ f ∈ unoccupied, known f) :
    placeRules.Safe known (main parameters) := by
  simp [unoccupied] at h
  cases henable : parameters.enableCamera <;> cases henable' : parameters.enableImu <;>
    simp [main, construct, loop, afterLoop, stopPublishers, destroyCamera, destroyImu, leave,
      unoccupied, cameraPlaces, imuPlaces, henable, henable', h]

theorem places_cleanup {rest : List MainOp} (hidle : known .cameraIdle)
    (hrest : placeRules.Safe (placeRules.after known .stopCamera) rest) :
    placeRules.Safe known ([.cleanupCamera, .cleanupCameraReturn, .loadCameraFailed] ++ rest) :=
  ⟨by simp [hidle], by simp, by simp, hrest.mono fun _ hf => by
    obtain ⟨hknown, hlost⟩ | hgiven := hf
    · exact .inl ⟨.inl ⟨.inl ⟨hknown, hlost⟩, hlost⟩, List.not_mem_nil⟩
    · exact .inl ⟨.inr hgiven, List.not_mem_nil⟩⟩

theorem places_stop {rest : List MainOp} (hidle : known .imuIdle) (hlive : known .imuLive)
    (hrest : placeRules.Safe (placeRules.after known .stopImu) rest) :
    placeRules.Safe known ([.stopImuCore, .stopImuCoreReturn, .loadImuFailed] ++ rest) :=
  ⟨by simp [hidle, hlive], by simp, by simp, hrest.mono fun f hf => by
    obtain ⟨hknown, hlost⟩ | hgiven := hf
    · exact .inl ⟨.inl ⟨.inl ⟨hknown, hlost⟩, hlost⟩, fun h => hlost (by
        obtain rfl := List.mem_singleton.mp h
        decide)⟩
    · exact .inl ⟨.inr hgiven, fun h => by
        obtain rfl := List.mem_singleton.mp h
        simp at hgiven⟩⟩

theorem places_unwind {op : MainOp} {unwind : List MainOp} (hop : op.unwind = some unwind)
    (h : ∀ f ∈ unoccupied, known f) :
    placeRules.Safe known (unwind ++ .catchError :: leave) := by
  simp [unoccupied] at h
  obtain rfl | rfl : unwind = destroyMembers ∨ unwind = stopPublishers := by
    cases op <;> cases hop <;> simp
  · simp [destroyMembers, destroyCamera, destroyImu, leave, cameraPlaces, imuPlaces, h]
  · simp [stopPublishers, destroyCamera, destroyImu, leave, cameraPlaces, imuPlaces, h]

end Programs

/-! ### Steps of the cores -/

section CameraSteps
variable [Fintype D] [DecidableEq D] {parameters : Parameters}

theorem cameraCall_inside {e : Σ i : Camera.Thread D, Camera.Act i}
    (he : CameraEffect parameters s t e) (hinside : s.cameraInside e = true) :
    (s.cameraCall = [] → t.cameraCall = []) ∧ ∀ site, Camera.inCall site s.cameraCall = true →
      Camera.inCall site t.cameraCall = true := by
  by_cases howner : e.1 = .owner
  · obtain ⟨i, a⟩ := e
    obtain rfl : i = .owner := howner
    obtain ⟨l, hst, hl⟩ := he.ownerStep
    rw [hl]
    obtain ⟨-, hops, -⟩ | ⟨op, ops, hops, hexec⟩ := Camera.ownerStep_cases hst
    · exact absurd rfl (outside_camera hinside hops)
    · have hcall : s.cameraCall = op :: ops := hops
      have hop : op.isReturn = false := by
        cases op <;> first | rfl | simp [Process.cameraInside, hcall] at hinside
      rw [hcall]
      exact ⟨fun h => absurd h (List.cons_ne_nil _ _), fun site h => Camera.exec_inCall h hop hexec⟩
  · obtain ⟨c, l, -, ht⟩ := Threads.next_eq_some he.next
    have hcall : t.cameraCall = s.cameraCall := by
      rw [Process.cameraCall, Process.cameraCall, ht]
      exact congrArg Camera.OwnerLocal.ops (Function.update_of_ne (Ne.symm howner) _ _)
    rw [hcall]
    exact ⟨id, fun _ => id⟩

theorem At.of_camera {e : Σ i : Camera.Thread D, Camera.Act i} (he : CameraEffect parameters s t e)
    {f : Place} (hf : f ∉ cameraPlaces) (h : At s f) :
    At t f := by
  cases f with
  | cameraIdle | cameraStarting | cameraCleaning => simp [cameraPlaces] at hf
  | _ =>
    simp only [At, Process.imuCall, he.imu, he.imuPublisher]
    exact h

theorem camera_crossed {a : Camera.Act (.owner : Camera.Thread D)}
    (he : CameraEffect parameters s t ⟨.owner, a⟩) (rest : List Camera.OwnerOp)
    (hstep : ∀ c l, Camera.ownerStep a s.camera.shared (s.camera.locals .owner) = some (c, l) →
      l.ops = rest) : t.cameraCall = rest := by
  obtain ⟨l, hst, hl⟩ := he.ownerStep
  exact hl.trans (hstep _ l hst)

theorem camera_entered {a : Camera.Act (.owner : Camera.Thread D)} {ops : List Camera.OwnerOp}
    (hidle : s.cameraCall = []) (he : CameraEffect parameters s t ⟨.owner, a⟩)
    (henter : ∀ c : Camera.Core D, ∀ detached,
      Camera.ownerStep a c ⟨[], detached⟩ = some (c, ⟨ops, detached⟩)) : t.cameraCall = ops := by
  refine camera_crossed he ops fun c l hst => ?_
  have hlocal : (s.camera.locals .owner : Camera.OwnerLocal) =
      ⟨[], (s.camera.locals .owner : Camera.OwnerLocal).detached⟩ :=
    congrArg₂ Camera.OwnerLocal.mk hidle rfl
  rw [hlocal, henter] at hst
  cases hst
  rfl

theorem cameraReturn_crossed {op : Camera.OwnerOp} (hcall : s.cameraCall = [op])
    (hop : op.isReturn = true) (he : CameraEffect parameters s t ⟨.owner, .step⟩) :
    t.cameraCall = [] := by
  refine camera_crossed he [] fun c l hst => ?_
  obtain ⟨-, hops, -⟩ | ⟨op', ops, hops, hexec⟩ := Camera.ownerStep_cases hst
  · exact absurd (hcall.symm.trans hops) (List.cons_ne_nil _ _)
  · obtain ⟨rfl, rfl⟩ := List.cons.inj (hcall.symm.trans hops)
    cases op with
    | returnStart | returnCleanup => cases hexec; rfl
    | _ => cases hop

end CameraSteps

section ImuSteps
variable [Inhabited P] {parameters : Parameters}

theorem imuCall_inside {e : Σ i, Imu.Act P i} (he : ImuEffect parameters s t e)
    (hinside : s.imuInside e = true) :
    (s.imuCall = [] → t.imuCall = []) ∧ (∀ site, Imu.inCall site s.imuCall = true →
      Imu.inCall site t.imuCall = true) ∧
      (t.imu.locals .owner : Imu.OwnerLocal).destructed =
        (s.imu.locals .owner : Imu.OwnerLocal).destructed := by
  by_cases howner : e.1 = .owner
  · obtain ⟨i, a⟩ := e
    obtain rfl : i = .owner := howner
    obtain ⟨c, l, hst, ht⟩ := Threads.next_eq_some he.next
    have hlocal : (t.imu.locals .owner : Imu.OwnerLocal) = l := by
      rw [ht]
      exact Function.update_self Imu.Thread.owner l s.imu.locals
    rw [Process.imuCall, Process.imuCall, hlocal]
    obtain ⟨-, hops, -⟩ | ⟨op, ops, r, hops, hexec, hdestructed⟩ := Imu.ownerStep_cases hst
    · exact absurd rfl (outside_imu (s := s) hinside hops)
    · have hcall : s.imuCall = op :: ops := hops
      have hop : op.isReturn = false := by
        cases op <;> first | rfl | simp [Process.imuInside, hcall] at hinside
      rw [hops]
      exact ⟨fun h => absurd h (List.cons_ne_nil _ _), fun site h => Imu.exec_inCall h hop hexec,
        hdestructed⟩
  · obtain ⟨c, l, -, ht⟩ := Threads.next_eq_some he.next
    have hlocal : t.imu.locals .owner = s.imu.locals .owner := by
      rw [ht]
      exact Function.update_of_ne (Ne.symm howner) _ _
    rw [Process.imuCall, Process.imuCall, hlocal]
    exact ⟨id, fun _ => id, rfl⟩

theorem At.of_imu {e : Σ i, Imu.Act P i} (he : ImuEffect parameters s t e) {f : Place}
    (hf : f ∉ imuPlaces) (h : At s f) : At t f := by
  cases f with
  | cameraIdle | cameraStarting | cameraCleaning =>
    simp only [At, Process.cameraCall, he.camera]
    exact h
  | _ => simp [imuPlaces] at hf

theorem imu_crossed {a : Imu.Act P .owner} (he : ImuEffect parameters s t ⟨.owner, a⟩)
    (l : Imu.OwnerLocal)
    (hstep : ∀ c l', Imu.ownerStep a s.imu.shared (s.imu.locals .owner) = some (c, l') → l' = l) :
    (t.imu.locals .owner : Imu.OwnerLocal) = l := by
  obtain ⟨c, l', hst, ht⟩ := Threads.next_eq_some he.next
  rw [ht]
  exact (Function.update_self Imu.Thread.owner l' s.imu.locals).trans (hstep c l' hst)

theorem imu_entered {a : Imu.Act P .owner} {l : Imu.OwnerLocal} (hidle : s.imuCall = [])
    (hlive : (s.imu.locals .owner : Imu.OwnerLocal).destructed = false)
    (he : ImuEffect parameters s t ⟨.owner, a⟩)
    (henter : ∀ c : Imu.Core P, Imu.ownerStep a c ⟨[], false⟩ = some (c, l)) :
    (t.imu.locals .owner : Imu.OwnerLocal) = l := by
  refine imu_crossed he l fun c l' hst => ?_
  have hlocal : (s.imu.locals .owner : Imu.OwnerLocal) = ⟨[], false⟩ :=
    congrArg₂ Imu.OwnerLocal.mk hidle hlive
  rw [hlocal, henter] at hst
  cases hst
  rfl

theorem imuReturn_crossed {op : Imu.OwnerOp} (hcall : s.imuCall = [op]) (hop : op.isReturn = true)
    (he : ImuEffect parameters s t ⟨.owner, .reply .done⟩) :
    t.imuCall = [] ∧ (t.imu.locals .owner : Imu.OwnerLocal).destructed =
      (s.imu.locals .owner : Imu.OwnerLocal).destructed := by
  have hlocal := imu_crossed he ⟨[], (s.imu.locals .owner : Imu.OwnerLocal).destructed⟩
    fun c l hst => ?_
  · rw [Process.imuCall, hlocal]
    exact ⟨rfl, rfl⟩
  · obtain ⟨-, hops, -⟩ | ⟨op', ops, r, hops, hexec, hdestructed⟩ := Imu.ownerStep_cases hst
    · exact absurd (hcall.symm.trans hops) (List.cons_ne_nil _ _)
    · obtain ⟨rfl, rfl⟩ := List.cons.inj (hcall.symm.trans hops)
      obtain ⟨ops, destructed⟩ := l
      obtain rfl : destructed = _ := hdestructed
      cases op with
      | returnStart | returnStop => cases r <;> cases hexec; rfl
      | _ => cases hop

end ImuSteps

section Process
variable [Fintype D] [DecidableEq D] [Inhabited P] {parameters : Parameters}

theorem other_places {i : Thread} {a : Act D P i} {l l' : Local i} (hi : i ≠ .main)
    (h : (process D P parameters).step i a s l = some (t, l')) {f : Place} (hf : At s f) :
    At t f := by
  cases i with
  | main => exact absurd rfl hi
  | camera =>
    obtain ⟨⟨-, hinside⟩, hst⟩ := Option.ite_none_right_eq_some.mp h
    obtain ⟨t, ht, hx⟩ := Option.map_eq_some_iff.mp hst
    cases hx
    have he := cameraStep_effect ht
    obtain ⟨hidle, hcall⟩ := cameraCall_inside he hinside
    cases f with
    | cameraIdle => exact hidle hf
    | cameraStarting => exact hcall .start hf
    | cameraCleaning => exact hcall .cleanup hf
    | _ => exact hf.of_camera he (by decide)
  | imu =>
    obtain ⟨⟨-, hinside⟩, hst⟩ := Option.ite_none_right_eq_some.mp h
    obtain ⟨t, ht, hx⟩ := Option.map_eq_some_iff.mp hst
    cases hx
    have he := imuStep_effect ht
    obtain ⟨hidle, hcall, hdestructed⟩ := imuCall_inside he hinside
    cases f with
    | imuIdle => exact hidle hf
    | imuLive => exact hdestructed.trans hf
    | imuStarting => exact hcall .startFailure hf
    | imuStopping => exact hcall .stop hf
    | imuDestroying => exact hf.imp he.imuPublisher.trans (hcall .stop)
    | _ => exact hf.of_imu he (by decide)
  | signals =>
    obtain ⟨-, hst⟩ := Option.ite_none_right_eq_some.mp h
    cases hst
    cases f <;> exact hf

/-! ### Steps of the main thread -/

def MainOp.exit : MainOp → Bool
  | .exitProcess | .returnExitCode => true
  | _ => false

def MainOp.body (op : MainOp) : Bool := !op.exit

/-- The code of the main thread finds the cores where it expects them, and ends the process. -/
structure Ready (s : Process D P) (ops : List MainOp) : Prop where
  places : placeRules.Safe (At s) ops
  ends : s.ending = none → block MainOp.body MainOp.exit ops = true

omit [Fintype D] [DecidableEq D] [Inhabited P] in
theorem Ready.tail {op : MainOp} {rest : List MainOp} (h : Ready s (op :: rest))
    (hop : op.exit = false) (hend : t.ending = none → s.ending = none)
    (hkeep : ∀ f, At s f → f ∉ (placeRules.contract op).loses → At t f)
    (hgive : ∀ f ∈ (placeRules.contract op).gives, At t f) : Ready t rest :=
  ⟨h.places.tail hkeep hgive, fun ht => block_rest (h.ends (hend ht)) hop⟩

omit [Fintype D] [DecidableEq D] [Inhabited P] in
theorem throw_ready (op : MainOp) {unwind ops : List MainOp} {standard : Bool}
    (hop : op.unwind = some unwind) (hplaces : ∀ f ∈ unoccupied, At s f)
    (h : s.throw unwind standard = (t, ops)) : Ready t ops := by
  cases standard with
  | true =>
    obtain ⟨rfl, rfl⟩ := Prod.mk.inj h
    refine ⟨places_unwind hop ?_, fun _ => ?_⟩
    · exact fun f hf => by cases f <;> exact hplaces _ hf
    · cases op <;> cases hop <;> rfl
  | false =>
    obtain ⟨rfl, rfl⟩ := Prod.mk.inj h
    exact ⟨by simp, fun hend => absurd hend (by simp)⟩

omit [Fintype D] [DecidableEq D] [Inhabited P] in
theorem unwind_needs {op : MainOp} {unwind rest : List MainOp} (hop : op.unwind = some unwind)
    (h : Ready s (op :: rest)) : ∀ f ∈ unoccupied, At s f := by
  have hneeds := h.places.1
  cases op <;> cases hop <;> exact hneeds

theorem exec_throws_ready {op : MainOp} {rest ops : List MainOp} {standard : Bool}
    (h : Ready s (op :: rest)) (hx : op.exec parameters s rest (.throws standard) = some (t, ops)) :
    Ready t ops := by
  obtain ⟨unwind, hunwind, hthrow⟩ := throws_cases hx
  exact throw_ready op hunwind (unwind_needs hunwind h) hthrow

omit [Fintype D] [DecidableEq D] [Inhabited P] in
theorem ready_over {code : Nat} :
    Ready ({ s with ending := some (.exited code) } : Process D P) [] :=
  ⟨by simp, nofun⟩

omit [Fintype D] [DecidableEq D] [Inhabited P] in
theorem ready_branch {op : MainOp} {rest : List MainOp} (h : Ready s (op :: rest))
    (hneeds : (placeRules.contract op).needs = unoccupied)
    (hgives : (placeRules.contract op).gives = []) (hop : op.exit = false) (p : Bool) :
    Ready s (if p then afterLoop else rest) := by
  cases p with
  | true => exact ⟨places_afterLoop (hneeds ▸ h.places.1), fun _ => rfl⟩
  | false => exact h.tail hop id (fun f hf _ => hf) fun f hf => absurd (hgives ▸ hf) List.not_mem_nil

omit [Fintype D] [DecidableEq D] [Inhabited P] in
theorem At.congr {f : Place} (hcamera : t.camera = s.camera) (himu : t.imu = s.imu)
    (hpublisher : f = .imuDestroying → s.imuPublisher = none → t.imuPublisher = none)
    (h : At s f) : At t f := by
  cases f with
  | imuDestroying =>
    rw [At, Process.imuCall, himu]
    exact h.imp_left (hpublisher rfl)
  | _ =>
    simp only [At, Process.cameraCall, Process.imuCall, hcamera, himu]
    exact h

omit [Fintype D] [DecidableEq D] [Inhabited P] in
theorem ready_aside {op : MainOp} {rest : List MainOp} (hr : Ready s (op :: rest))
    (hcamera : t.camera = s.camera) (himu : t.imu = s.imu) (hend : t.ending = s.ending)
    (hpublisher : .imuDestroying ∉ (placeRules.contract op).loses → s.imuPublisher = none →
      t.imuPublisher = none)
    (hop : op.exit = false) (hgives : (placeRules.contract op).gives = []) : Ready t rest :=
  hr.tail hop hend.symm.trans
    (fun _ hf hlost => hf.congr hcamera himu fun hd => hpublisher (hd ▸ hlost))
    fun _ hf => absurd (hgives ▸ hf) List.not_mem_nil

omit [Fintype D] [DecidableEq D] [Inhabited P] in
theorem ready_spinOnce {rest : List MainOp} (hr : Ready s (.spinOnce :: rest)) :
    Ready s (loop ++ rest) := by
  have hrest : Ready s rest := ready_aside hr rfl rfl rfl (fun _ => id) rfl rfl
  exact ⟨places_loop hr.places.1 hrest.places,
    fun hend => block_prepend (hrest.ends hend) (by decide)⟩

theorem ready_stopCamera {rest ops : List MainOp} (hr : Ready s (.stopCamera :: rest))
    (h : MainOp.stopCamera.exec parameters s rest .step = some (t, ops)) : Ready t ops := by
  have hidle : At s .cameraIdle := hr.places.1 _ (by simp)
  have hrest : Ready s rest := hr.tail rfl id (fun f hf _ => hf) (by simpa using hidle)
  obtain ⟨rfl, ⟨rfl, -⟩ | ⟨rfl, -⟩⟩ := stopCamera_cases h
  · exact hrest
  · exact ⟨places_cleanup hidle hr.places.2,
      fun hend => block_prepend (hrest.ends hend) (by decide)⟩

theorem ready_stopImu {rest ops : List MainOp} (hr : Ready s (.stopImu :: rest))
    (h : MainOp.stopImu.exec parameters s rest .step = some (t, ops)) : Ready t ops := by
  have hidle : At s .imuIdle := hr.places.1 _ (by simp)
  have hlive : At s .imuLive := hr.places.1 _ (by simp)
  have hrest : Ready s rest := hr.tail rfl id (fun f hf _ => hf) (by simpa using ⟨hidle, hlive⟩)
  obtain ⟨rfl, ⟨rfl, -⟩ | ⟨rfl, -⟩⟩ := stopImu_cases h
  · exact hrest
  · exact ⟨places_stop hidle hlive hr.places.2,
      fun hend => block_prepend (hrest.ends hend) (by decide)⟩

/-! #### Calls of the cores -/

omit [Inhabited P] in
theorem crossed_camera {op : MainOp} {rest : List MainOp}
    {a : Camera.Act (.owner : Camera.Thread D)} (hr : Ready s (op :: rest))
    (he : CameraEffect parameters s t ⟨.owner, a⟩)
    (hloses : (placeRules.contract op).loses = cameraPlaces) (hop : op.exit = false)
    (hgive : ∀ f ∈ (placeRules.contract op).gives, At t f) : Ready t rest :=
  hr.tail hop he.ending.symm.trans (fun _ hf hlost => hf.of_camera he (hloses ▸ hlost)) hgive

omit [Fintype D] [DecidableEq D] in
theorem crossed_imu {op : MainOp} {rest : List MainOp} {a : Imu.Act P .owner}
    (hr : Ready s (op :: rest)) (he : ImuEffect parameters s t ⟨.owner, a⟩)
    (hloses : (placeRules.contract op).loses = imuPlaces) (hop : op.exit = false)
    (hgive : ∀ f ∈ (placeRules.contract op).gives, At t f) : Ready t rest :=
  hr.tail hop he.ending.symm.trans (fun _ hf hlost => hf.of_imu he (hloses ▸ hlost)) hgive

omit [Inhabited P] in
theorem entered_camera {op : MainOp} {rest : List MainOp}
    {a : Camera.Act (.owner : Camera.Thread D)} {call : List Camera.OwnerOp}
    (hr : Ready s (op :: rest)) (hu : s.cameraStep parameters ⟨.owner, a⟩ = some t)
    (henter : ∀ c : Camera.Core D, ∀ detached,
      Camera.ownerStep a c ⟨[], detached⟩ = some (c, ⟨call, detached⟩))
    (hneeds : .cameraIdle ∈ (placeRules.contract op).needs)
    (hloses : (placeRules.contract op).loses = cameraPlaces) (hop : op.exit = false)
    (hgive : t.cameraCall = call → ∀ f ∈ (placeRules.contract op).gives, At t f) :
    Ready t rest := by
  have he := cameraStep_effect hu
  exact crossed_camera hr he hloses hop (hgive (camera_entered (hr.places.1 _ hneeds) he henter))

omit [Fintype D] [DecidableEq D] in
theorem entered_imu {op : MainOp} {rest : List MainOp} {a : Imu.Act P .owner} {l : Imu.OwnerLocal}
    (hr : Ready s (op :: rest)) (hu : s.imuStep parameters ⟨.owner, a⟩ = some t)
    (henter : ∀ c : Imu.Core P, Imu.ownerStep a c ⟨[], false⟩ = some (c, l))
    (hneeds : .imuIdle ∈ (placeRules.contract op).needs ∧
      .imuLive ∈ (placeRules.contract op).needs)
    (hloses : (placeRules.contract op).loses = imuPlaces) (hop : op.exit = false)
    (hgive : (t.imu.locals .owner : Imu.OwnerLocal) = l →
      ∀ f ∈ (placeRules.contract op).gives, At t f) : Ready t rest := by
  have he := imuStep_effect hu
  have hlocal := imu_entered (hr.places.1 _ hneeds.1) (hr.places.1 _ hneeds.2) he henter
  exact crossed_imu hr he hloses hop (hgive hlocal)

omit [Inhabited P] in
theorem returned_camera {op : MainOp} {rest : List MainOp} {op' : Camera.OwnerOp}
    {u : Process D P} (hr : Ready s (op :: rest)) (hcall : s.cameraCall = [op'])
    (hreturn : op'.isReturn = true) (he : CameraEffect parameters s u ⟨.owner, .step⟩)
    (hcamera : t.camera = u.camera) (himu : t.imu = u.imu) (hend : t.ending = u.ending)
    (hpublisher : t.imuPublisher = u.imuPublisher)
    (hloses : (placeRules.contract op).loses = cameraPlaces) (hop : op.exit = false)
    (hgives : (placeRules.contract op).gives = [.cameraIdle]) : Ready t rest := by
  refine hr.tail hop (fun h => he.ending.symm.trans (hend.symm.trans h)) (fun f hf hlost => ?_) ?_
  · exact (hf.of_camera he (hloses ▸ hlost)).congr hcamera himu fun _ => hpublisher.trans
  · rw [hgives]
    simpa [At, Process.cameraCall, hcamera] using cameraReturn_crossed hcall hreturn he

omit [Fintype D] [DecidableEq D] in
theorem returned_imu {op : MainOp} {rest : List MainOp} {op' : Imu.OwnerOp} {u : Process D P}
    (hr : Ready s (op :: rest)) (hcall : s.imuCall = [op']) (hreturn : op'.isReturn = true)
    (he : ImuEffect parameters s u ⟨.owner, .reply .done⟩)
    (hcamera : t.camera = u.camera) (himu : t.imu = u.imu) (hend : t.ending = u.ending)
    (hneeds : .imuLive ∈ (placeRules.contract op).needs)
    (hloses : (placeRules.contract op).loses = imuPlaces) (hop : op.exit = false)
    (hgives : (placeRules.contract op).gives = [.imuIdle, .imuLive]) : Ready t rest := by
  obtain ⟨hreturned, hdestructed⟩ := imuReturn_crossed hcall hreturn he
  refine hr.tail hop (fun h => he.ending.symm.trans (hend.symm.trans h)) (fun f hf hlost => ?_) ?_
  · rw [hloses] at hlost
    refine (hf.of_imu he hlost).congr hcamera himu fun hd => ?_
    simp [hd, imuPlaces] at hlost
  · rw [hgives]
    simpa [At, Process.imuCall, himu] using
      ⟨hreturned, hdestructed.trans (hr.places.1 _ hneeds)⟩

theorem ready_startImuReturn {rest ops : List MainOp} (hr : Ready s (.startImuReturn :: rest))
    (h : MainOp.startImuReturn.exec parameters s rest .step = some (t, ops)) : Ready t ops := by
  obtain ⟨result, u, hcall, hu, ⟨-, rfl, rfl⟩ | ⟨-, hthrow⟩⟩ := startImuReturn_cases h
  · exact returned_imu hr hcall rfl (imuStep_effect hu) rfl rfl rfl (by simp) rfl rfl rfl
  · have he := imuStep_effect hu
    obtain ⟨hreturned, hdestructed⟩ := imuReturn_crossed hcall rfl he
    have hidle : At s .cameraIdle := hr.places.1 _ (by simp)
    have hlive : At s .imuLive := hr.places.1 _ (by simp)
    refine throw_ready .startImu rfl ?_ hthrow
    simpa [unoccupied, At, hreturned] using
      ⟨hidle.of_imu he (by decide), hdestructed.trans hlive⟩

theorem ready_startCameraReturn {rest ops : List MainOp}
    (hr : Ready s (.startCameraReturn :: rest))
    (h : MainOp.startCameraReturn.exec parameters s rest .step = some (t, ops)) : Ready t ops := by
  obtain ⟨result, u, hcall, hu, ⟨-, rfl, rfl⟩ | ⟨-, hthrow⟩⟩ := startCameraReturn_cases h
  · exact returned_camera hr hcall rfl (cameraStep_effect hu) rfl rfl rfl rfl rfl rfl rfl
  · have he := cameraStep_effect hu
    have hreturned := cameraReturn_crossed hcall rfl he
    have hidle : At s .imuIdle := hr.places.1 _ (by simp)
    have hlive : At s .imuLive := hr.places.1 _ (by simp)
    refine throw_ready .startCamera rfl ?_ hthrow
    simpa [unoccupied] using
      ⟨hreturned, hidle.of_camera he (by decide), hlive.of_camera he (by decide)⟩

theorem exec_ready {op : MainOp} {rest ops : List MainOp} (hr : Ready s (op :: rest))
    (h : op.exec parameters s rest .step = some (t, ops)) : Ready t ops := by
  cases op with
  | loadParameters | startImuTimer | makeCamera | configureCamera | startCameraTimer | addNode
  | removeNode | loadCameraFailed | resetCamera | catchError | shutdown =>
    cases h
    exact ready_aside hr rfl rfl rfl (fun _ => id) rfl rfl
  | makeImu | loadImuFailed =>
    cases h
    exact ready_aside hr rfl rfl rfl (fun hd => absurd List.mem_cons_self hd) rfl rfl
  | resetImu => cases h; exact ready_aside hr rfl rfl rfl (fun _ _ => rfl) rfl rfl
  | loadStopRequested => cases h; exact ready_branch hr rfl rfl rfl s.stopRequested
  | loadProcessFailed => cases h; exact ready_branch hr rfl rfl rfl s.processFailed
  | loadOk =>
    cases h
    have hbranch := ready_branch hr rfl rfl rfl (!s.ok)
    cases hok : s.ok <;> simpa [hok] using hbranch
  | spinOnce => cases h; exact ready_spinOnce hr
  | exitProcess | returnExitCode => cases h; exact ready_over
  | stopCamera => exact ready_stopCamera hr h
  | stopImu => exact ready_stopImu hr h
  | startImu | stopImuCore =>
    obtain ⟨hu, rfl⟩ := step_cases h
    refine entered_imu hr hu (fun _ => rfl) (by simp [unoccupied]) rfl rfl fun hlocal => ?_
    simp [At, Process.imuCall, hlocal]
    rfl
  | destroyImuCore =>
    obtain ⟨rfl, ⟨hnone, rfl⟩ | ⟨-, hu⟩⟩ := destroyImuCore_cases h
    · exact hr.tail rfl id (fun f hf _ => hf) (by simp [At, hnone])
    · refine entered_imu hr hu (fun _ => rfl) (by simp) rfl rfl fun hlocal => ?_
      simp [At, Process.imuCall, hlocal]
      exact .inr rfl
  | startCamera | cleanupCamera =>
    obtain ⟨hu, rfl⟩ := step_cases h
    refine entered_camera hr hu (fun _ _ => rfl) (by simp [unoccupied]) rfl rfl fun hcall => ?_
    simp [At, hcall]
    rfl
  | startImuReturn => exact ready_startImuReturn hr h
  | startCameraReturn => exact ready_startCameraReturn hr h
  | cleanupCameraReturn =>
    obtain ⟨result, u, hcall, hu, ⟨-, rfl, rfl⟩ | ⟨-, rfl, rfl⟩⟩ := cleanupCameraReturn_cases h
    · exact returned_camera hr hcall rfl (cameraStep_effect hu) rfl rfl rfl rfl rfl rfl rfl
    · exact ⟨by simp, fun _ => rfl⟩
  | stopImuCoreReturn =>
    obtain ⟨result, u, hcall, hu, rfl, rfl⟩ := stopImuCoreReturn_cases h
    exact returned_imu hr hcall rfl (imuStep_effect hu) rfl rfl rfl (by simp) rfl rfl rfl
  | destroyImuCoreReturn =>
    obtain ⟨rfl, ⟨-, rfl⟩ | ⟨-, result, -, hu⟩⟩ := destroyImuCoreReturn_cases h
    · exact hr.tail rfl id (fun f hf _ => hf) (by simp)
    · exact crossed_imu hr (imuStep_effect hu) rfl rfl (by simp)

theorem mainStep_ready {a : MainAct} {ops ops' : List MainOp} (hr : Ready s ops)
    (h : mainStep parameters a s ops = some (t, ops')) : Ready t ops' := by
  cases ops with
  | nil => cases h
  | cons op rest =>
    obtain ⟨-, hexec⟩ := Option.ite_none_right_eq_some.mp h
    cases a with
    | step => exact exec_ready hr hexec
    | throws standard => exact exec_throws_ready hr hexec

theorem other_ending {i : Thread} {a : Act D P i} {l l' : Local i} (hi : i ≠ .main)
    (h : (process D P parameters).step i a s l = some (t, l')) : t.ending = s.ending := by
  cases i with
  | main => exact absurd rfl hi
  | camera =>
    obtain ⟨-, hst⟩ := Option.ite_none_right_eq_some.mp h
    obtain ⟨t, ht, hx⟩ := Option.map_eq_some_iff.mp hst
    cases hx
    exact (cameraStep_effect ht).ending
  | imu =>
    obtain ⟨-, hst⟩ := Option.ite_none_right_eq_some.mp h
    obtain ⟨t, ht, hx⟩ := Option.map_eq_some_iff.mp hst
    cases hx
    exact (imuStep_effect ht).ending
  | signals =>
    obtain ⟨-, hst⟩ := Option.ite_none_right_eq_some.mp h
    cases hst
    rfl

/-- Wherever the main thread is, the cores are where it expects them. -/
theorem reachable_ready {s : State D P} (h : (process D P parameters).Reachable s) :
    Ready s.shared (s.locals .main) := by
  refine Threads.Reachable.focus (T := process D P parameters) (i := .main) (J := Ready)
    ⟨places_main parameters ?_, fun _ => ?_⟩ ?_ ?_ h
  · intro f hf
    cases f <;> first | rfl | simp [unoccupied] at hf
  · show block MainOp.body MainOp.exit (main parameters) = true
    cases henable : parameters.enableCamera <;> cases henable' : parameters.enableImu <;>
      simp only [main, construct, henable, henable'] <;> rfl
  · intro s a s' ops _ hJ hst
    exact mainStep_ready hJ hst
  · intro s j a s' l' hj _ hJ hst
    refine ⟨hJ.places.mono fun f hf => other_places hj hst hf, fun hend => hJ.ends ?_⟩
    exact (other_ending hj hst).symm.trans hend

end Process
end RoboBaton.Node
