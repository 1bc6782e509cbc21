import RoboBaton.Camera.Contract
import RoboBaton.Imu.Lifecycle

/-! `main`: the construction of `SensorNode`, the executor, the destructors, and the exit
status. The main thread calls `Start`, `Cleanup` and `Stop` of the two cores; while such a call
runs, its instructions interleave with the other threads of the core, and its return hands its
result to the main thread. -/

namespace RoboBaton.Node
open Transition

structure Parameters where
  enableCamera : Bool
  enableImu : Bool
  camera : Camera.CameraCoreConfig
  imu : Imu.CoreConfig
  publishCameraInfo : Bool
  publishTemperature : Bool

/-- A `unique_ptr` to a publisher, with the `started_` of the publisher. -/
abbrev Publisher := Option Bool

inductive Ending
  | exited (code : Nat)
  | aborted
  deriving DecidableEq, Repr

structure Process (D P : Type) where
  camera : Camera.State D
  imu : Imu.State P
  cameraPublisher : Publisher
  imuPublisher : Publisher
  processFailed : Bool
  stopRequested : Bool
  ok : Bool
  exitCode : Nat
  escaped : Bool
  ending : Option Ending

inductive MainOp
  | loadParameters
  | makeImu
  | startImu
  | startImuReturn
  | startImuTimer
  | makeCamera
  | configureCamera
  | startCamera
  | startCameraReturn
  | startCameraTimer
  | addNode
  | loadStopRequested
  | loadOk
  | loadProcessFailed
  | spinOnce
  | removeNode
  | stopCamera
  | cleanupCamera
  | cleanupCameraReturn
  | loadCameraFailed
  | exitProcess
  | resetCamera
  | stopImu
  | stopImuCore
  | stopImuCoreReturn
  | loadImuFailed
  | destroyImuCore
  | destroyImuCoreReturn
  | resetImu
  | catchError
  | shutdown
  | returnExitCode
  deriving DecidableEq, Repr

/-! ### The code of `main` -/

def construct (parameters : Parameters) : List MainOp :=
  .loadParameters ::
    (if parameters.enableImu then [.makeImu, .startImu, .startImuReturn, .startImuTimer] else []) ++
    (if parameters.enableCamera then
      [.makeCamera, .configureCamera, .startCamera, .startCameraReturn, .startCameraTimer] else [])

def loop : List MainOp := [.loadStopRequested, .loadOk, .loadProcessFailed, .spinOnce]

/-- The destructor of a `CameraPublisher`, whose core lives on. -/
def destroyCamera : List MainOp := [.stopCamera, .resetCamera]

def destroyImu : List MainOp := [.stopImu, .destroyImuCore, .destroyImuCoreReturn, .resetImu]

/-- `StopPublishers`, after which the destructors of the members find nothing left. -/
def stopPublishers : List MainOp := .stopCamera :: destroyCamera ++ .stopImu :: destroyImu

/-- The members of a `SensorNode` whose constructor throws, the last one first. -/
def destroyMembers : List MainOp := destroyImu ++ destroyCamera

def leave : List MainOp := [.shutdown, .returnExitCode]

def afterLoop : List MainOp := .removeNode :: stopPublishers ++ leave

def main (parameters : Parameters) : List MainOp :=
  construct parameters ++ .addNode :: loop ++ afterLoop

/-- The instructions that can throw, with what the exception destroys on its way out. -/
def MainOp.unwind : MainOp → Option (List MainOp)
  | .loadParameters | .makeImu | .startImu | .startImuTimer => some destroyMembers
  | .makeCamera | .configureCamera | .startCamera | .startCameraTimer => some destroyMembers
  | .addNode | .spinOnce | .removeNode => some stopPublishers
  | _ => none

section Steps
variable {D P : Type} [Fintype D] [DecidableEq D] [Inhabited P] (parameters : Parameters)

/-- An exception leaves the `try` block. Only a `std::exception` is caught. -/
def Process.throw (s : Process D P) (unwind : List MainOp) (standard : Bool) :
    Process D P × List MainOp :=
  if standard then ({ s with escaped := true }, unwind ++ .catchError :: leave)
  else ({ s with escaped := true, ending := some .aborted }, [])

/-- One step of a thread of the camera core, or of the call that the main thread is in. Its
failure notifier records the failure and shuts ROS down. -/
def Process.cameraStep (s : Process D P) (e : Σ i : Camera.Thread D, Camera.Act i) :
    Option (Process D P) :=
  ((Camera.threads D parameters.publishCameraInfo).next e s.camera).map fun camera =>
    if s.camera.shared.notifications < camera.shared.notifications then
      { s with camera, processFailed := true, ok := false }
    else { s with camera }

def Process.imuStep (s : Process D P) (e : Σ i, Imu.Act P i) : Option (Process D P) :=
  ((Imu.threads P parameters.publishTemperature).next e s.imu).map fun imu =>
    if s.imu.shared.notifications < imu.shared.notifications then
      { s with imu, processFailed := true, ok := false }
    else { s with imu }

def Process.cameraCall (s : Process D P) : List Camera.OwnerOp :=
  (s.camera.locals .owner : Camera.OwnerLocal).ops

def Process.imuCall (s : Process D P) : List Imu.OwnerOp :=
  (s.imu.locals .owner : Imu.OwnerLocal).ops

inductive MainAct
  | step
  | throws (standard : Bool)
  deriving DecidableEq, Repr

/-- One instruction of the main thread. `rest` is the code after it. -/
def MainOp.exec (s : Process D P) (rest : List MainOp) :
    MainOp → MainAct → Option (Process D P × List MainOp)
  | op, .throws standard => op.unwind.map fun unwind => s.throw unwind standard
  | .loadParameters, .step => some (s, rest)
  | .makeImu, .step => some ({ s with imuPublisher := some false }, rest)
  | .startImu, .step =>
    (s.imuStep parameters ⟨.owner, .start parameters.imu true true⟩).map fun t => (t, rest)
  -- the core is about to return; only the main thread takes this step
  | .startImuReturn, .step =>
    match s.imuCall with
    | [.returnStart result] =>
      (s.imuStep parameters ⟨.owner, .reply .done⟩).map fun t =>
        if result then ({ t with imuPublisher := some true }, rest) else t.throw destroyMembers true
    | _ => none
  | .startImuTimer, .step => some (s, rest)
  | .makeCamera, .step => some ({ s with cameraPublisher := some false }, rest)
  | .configureCamera, .step => some (s, rest)
  | .startCamera, .step =>
    (s.cameraStep parameters ⟨.owner, .start parameters.camera true true⟩).map fun t => (t, rest)
  | .startCameraReturn, .step =>
    match s.cameraCall with
    | [.returnStart result] =>
      (s.cameraStep parameters ⟨.owner, .step⟩).map fun t =>
        if result = .started then ({ t with cameraPublisher := some true }, rest)
        else t.throw destroyMembers true
    | _ => none
  | .startCameraTimer, .step => some (s, rest)
  | .addNode, .step => some (s, rest)
  | .loadStopRequested, .step => some (s, if s.stopRequested then afterLoop else rest)
  | .loadOk, .step => some (s, if s.ok then rest else afterLoop)
  | .loadProcessFailed, .step => some (s, if s.processFailed then afterLoop else rest)
  | .spinOnce, .step => some (s, loop ++ rest)
  | .removeNode, .step => some (s, rest)
  | .stopCamera, .step =>
    match s.cameraPublisher with
    | none => some (s, rest)
    | some started =>
      if !started && !s.camera.shared.failed then some (s, rest)
      else some (s, [.cleanupCamera, .cleanupCameraReturn, .loadCameraFailed] ++ rest)
  | .cleanupCamera, .step =>
    (s.cameraStep parameters ⟨.owner, .cleanup⟩).map fun t => (t, rest)
  -- a cleanup that failed leaves threads behind, so nothing is destroyed any more
  | .cleanupCameraReturn, .step =>
    match s.cameraCall with
    | [.returnCleanup result] =>
      (s.cameraStep parameters ⟨.owner, .step⟩).map fun t =>
        if result then (t, rest) else ({ t with processFailed := true }, [.exitProcess])
    | _ => none
  | .loadCameraFailed, .step =>
    some ({ s with
      processFailed := s.processFailed || s.camera.shared.failed, cameraPublisher := some false },
      rest)
  -- `std::_Exit(1)`
  | .exitProcess, .step => some ({ s with ending := some (.exited 1) }, [])
  | .resetCamera, .step => some ({ s with cameraPublisher := none }, rest)
  | .stopImu, .step =>
    match s.imuPublisher with
    | none => some (s, rest)
    | some started =>
      if !started && !s.imu.shared.failed then some (s, rest)
      else some (s, [.stopImuCore, .stopImuCoreReturn, .loadImuFailed] ++ rest)
  | .stopImuCore, .step => (s.imuStep parameters ⟨.owner, .stop⟩).map fun t => (t, rest)
  | .stopImuCoreReturn, .step =>
    match s.imuCall with
    | [.returnStop result] =>
      (s.imuStep parameters ⟨.owner, .reply .done⟩).map fun t =>
        ({ t with processFailed := t.processFailed || !result }, rest)
    | _ => none
  | .loadImuFailed, .step =>
    some ({ s with
      processFailed := s.processFailed || s.imu.shared.failed, imuPublisher := some false }, rest)
  | .destroyImuCore, .step =>
    match s.imuPublisher with
    | none => some (s, rest)
    | some _ => (s.imuStep parameters ⟨.owner, .destruct⟩).map fun t => (t, rest)
  | .destroyImuCoreReturn, .step =>
    match s.imuPublisher, s.imuCall with
    | none, _ => some (s, rest)
    | some _, [.returnStop _] =>
      (s.imuStep parameters ⟨.owner, .reply .done⟩).map fun t => (t, rest)
    | _, _ => none
  | .resetImu, .step => some ({ s with imuPublisher := none }, rest)
  | .catchError, .step => some ({ s with exitCode := 1 }, rest)
  | .shutdown, .step => some ({ s with ok := false }, rest)
  | .returnExitCode, .step =>
    some ({ s with ending := some (.exited (if s.processFailed then 1 else s.exitCode)) }, [])

def mainStep (a : MainAct) (s : Process D P) : List MainOp → Option (Process D P × List MainOp)
  | [] => none
  | op :: rest => if s.ending = none then op.exec parameters s rest a else none

/-! ### What an instruction comes to -/

section Cases
variable {parameters} {s t : Process D P} {op : MainOp} {rest ops : List MainOp}

theorem throws_cases {standard : Bool}
    (h : op.exec parameters s rest (.throws standard) = some (t, ops)) :
    ∃ unwind, op.unwind = some unwind ∧ s.throw unwind standard = (t, ops) := by
  cases op <;> exact Option.map_eq_some_iff.mp h

omit [Fintype D] [DecidableEq D] [Inhabited P] in
theorem step_cases {step : Option (Process D P)}
    (h : step.map (fun t => (t, rest)) = some (t, ops)) : step = some t ∧ ops = rest := by
  obtain ⟨u, hu, hx⟩ := Option.map_eq_some_iff.mp h
  obtain ⟨rfl, rfl⟩ := Prod.mk.inj hx
  exact ⟨hu, rfl⟩

theorem startImuReturn_cases
    (h : MainOp.startImuReturn.exec parameters s rest .step = some (t, ops)) :
    ∃ result u, s.imuCall = [.returnStart result] ∧
      s.imuStep parameters ⟨.owner, .reply .done⟩ = some u ∧
      (result = true ∧ t = { u with imuPublisher := some true } ∧ ops = rest ∨
        result = false ∧ u.throw destroyMembers true = (t, ops)) := by
  simp only [MainOp.exec] at h
  split at h
  · rename_i result hcall
    obtain ⟨u, hu, hx⟩ := Option.map_eq_some_iff.mp h
    refine ⟨result, u, hcall, hu, ?_⟩
    cases result with
    | true =>
      obtain ⟨rfl, rfl⟩ := Prod.mk.inj hx
      exact .inl ⟨rfl, rfl, rfl⟩
    | false => exact .inr ⟨rfl, hx⟩
  · cases h

theorem startCameraReturn_cases
    (h : MainOp.startCameraReturn.exec parameters s rest .step = some (t, ops)) :
    ∃ result u, s.cameraCall = [.returnStart result] ∧
      s.cameraStep parameters ⟨.owner, .step⟩ = some u ∧
      (result = .started ∧ t = { u with cameraPublisher := some true } ∧ ops = rest ∨
        result ≠ .started ∧ u.throw destroyMembers true = (t, ops)) := by
  simp only [MainOp.exec] at h
  split at h
  · rename_i result hcall
    obtain ⟨u, hu, hx⟩ := Option.map_eq_some_iff.mp h
    refine ⟨result, u, hcall, hu, ?_⟩
    by_cases hstarted : result = .started
    · rw [if_pos hstarted] at hx
      obtain ⟨rfl, rfl⟩ := Prod.mk.inj hx
      exact .inl ⟨hstarted, rfl, rfl⟩
    · rw [if_neg hstarted] at hx
      exact .inr ⟨hstarted, hx⟩
  · cases h

theorem stopCamera_cases (h : MainOp.stopCamera.exec parameters s rest .step = some (t, ops)) :
    t = s ∧ (ops = rest ∧ (∀ started, s.cameraPublisher = some started →
        started = false ∧ s.camera.shared.failed = false) ∨
      ops = [.cleanupCamera, .cleanupCameraReturn, .loadCameraFailed] ++ rest ∧
        s.cameraPublisher ≠ none) := by
  simp only [MainOp.exec] at h
  split at h
  · rename_i hnone
    obtain ⟨rfl, rfl⟩ := Prod.mk.inj (Option.some.inj h)
    exact ⟨rfl, .inl ⟨rfl, fun _ hsome => by cases hnone.symm.trans hsome⟩⟩
  · rename_i started hsome
    split at h
    · rename_i hskip
      obtain ⟨rfl, rfl⟩ := Prod.mk.inj (Option.some.inj h)
      refine ⟨rfl, .inl ⟨rfl, fun _ hsome' => ?_⟩⟩
      obtain rfl := Option.some.inj (hsome.symm.trans hsome')
      simpa using hskip
    · obtain ⟨rfl, rfl⟩ := Prod.mk.inj (Option.some.inj h)
      exact ⟨rfl, .inr ⟨rfl, by simp [hsome]⟩⟩

theorem cleanupCameraReturn_cases
    (h : MainOp.cleanupCameraReturn.exec parameters s rest .step = some (t, ops)) :
    ∃ result u, s.cameraCall = [.returnCleanup result] ∧
      s.cameraStep parameters ⟨.owner, .step⟩ = some u ∧
      (result = true ∧ t = u ∧ ops = rest ∨
        result = false ∧ t = { u with processFailed := true } ∧ ops = [.exitProcess]) := by
  simp only [MainOp.exec] at h
  split at h
  · rename_i result hcall
    obtain ⟨u, hu, hx⟩ := Option.map_eq_some_iff.mp h
    refine ⟨result, u, hcall, hu, ?_⟩
    cases result <;> obtain ⟨rfl, rfl⟩ := Prod.mk.inj hx
    · exact .inr ⟨rfl, rfl, rfl⟩
    · exact .inl ⟨rfl, rfl, rfl⟩
  · cases h

theorem stopImu_cases (h : MainOp.stopImu.exec parameters s rest .step = some (t, ops)) :
    t = s ∧ (ops = rest ∧ s.imuPublisher ≠ some true ∨
      ops = [.stopImuCore, .stopImuCoreReturn, .loadImuFailed] ++ rest ∧
        s.imuPublisher ≠ none) := by
  simp only [MainOp.exec] at h
  split at h
  · rename_i hnone
    obtain ⟨rfl, rfl⟩ := Prod.mk.inj (Option.some.inj h)
    exact ⟨rfl, .inl ⟨rfl, by simp [hnone]⟩⟩
  · rename_i started hsome
    split at h
    · rename_i hskip
      obtain ⟨rfl, rfl⟩ := Prod.mk.inj (Option.some.inj h)
      exact ⟨rfl, .inl ⟨rfl, by simp_all⟩⟩
    · obtain ⟨rfl, rfl⟩ := Prod.mk.inj (Option.some.inj h)
      exact ⟨rfl, .inr ⟨rfl, by simp [hsome]⟩⟩

theorem stopImuCoreReturn_cases
    (h : MainOp.stopImuCoreReturn.exec parameters s rest .step = some (t, ops)) :
    ∃ result u, s.imuCall = [.returnStop result] ∧
      s.imuStep parameters ⟨.owner, .reply .done⟩ = some u ∧
      t = { u with processFailed := u.processFailed || !result } ∧ ops = rest := by
  simp only [MainOp.exec] at h
  split at h
  · rename_i result hcall
    obtain ⟨u, hu, hx⟩ := Option.map_eq_some_iff.mp h
    obtain ⟨rfl, rfl⟩ := Prod.mk.inj hx
    exact ⟨result, u, hcall, hu, rfl, rfl⟩
  · cases h

theorem destroyImuCore_cases
    (h : MainOp.destroyImuCore.exec parameters s rest .step = some (t, ops)) :
    ops = rest ∧ (s.imuPublisher = none ∧ t = s ∨
      s.imuPublisher ≠ none ∧ s.imuStep parameters ⟨.owner, .destruct⟩ = some t) := by
  simp only [MainOp.exec] at h
  split at h
  · rename_i hnone
    obtain ⟨rfl, rfl⟩ := Prod.mk.inj (Option.some.inj h)
    exact ⟨rfl, .inl ⟨hnone, rfl⟩⟩
  · rename_i started hsome
    obtain ⟨hstep, rfl⟩ := step_cases h
    exact ⟨rfl, .inr ⟨by simp [hsome], hstep⟩⟩

theorem destroyImuCoreReturn_cases
    (h : MainOp.destroyImuCoreReturn.exec parameters s rest .step = some (t, ops)) :
    ops = rest ∧ (s.imuPublisher = none ∧ t = s ∨
      s.imuPublisher ≠ none ∧ ∃ result, s.imuCall = [.returnStop result] ∧
        s.imuStep parameters ⟨.owner, .reply .done⟩ = some t) := by
  simp only [MainOp.exec] at h
  split at h
  · rename_i hnone
    obtain ⟨rfl, rfl⟩ := Prod.mk.inj (Option.some.inj h)
    exact ⟨rfl, .inl ⟨hnone, rfl⟩⟩
  · rename_i started result hsome hcall
    obtain ⟨hstep, rfl⟩ := step_cases h
    exact ⟨rfl, .inr ⟨by simp [hsome], result, hcall, hstep⟩⟩
  · cases h

end Cases
/-! ### The process -/

inductive Thread
  | main
  | camera
  | imu
  | signals
  deriving DecidableEq, Repr

def Local : Thread → Type
  | .main => List MainOp
  | _ => Unit

def Act (D P : Type) : Thread → Type
  | .main => MainAct
  | .camera => Σ i : Camera.Thread D, Camera.Act i
  | .imu => Σ i, Imu.Act P i
  | .signals => Unit

/-- Only the main thread enters the calls of a core and returns from them. -/
def Process.cameraInside (s : Process D P) (e : Σ i : Camera.Thread D, Camera.Act i) : Bool :=
  e.1 != .owner ||
    match s.cameraCall with
    | [] | .returnStart _ :: _ | .returnCleanup _ :: _ => false
    | _ => true

def Process.imuInside (s : Process D P) (e : Σ i, Imu.Act P i) : Bool :=
  e.1 != .owner ||
    match s.imuCall with
    | [] | .returnStart _ :: _ | .returnStop _ :: _ => false
    | _ => true

def Process.init : Process D P where
  camera := (Camera.threads D parameters.publishCameraInfo).toSystem.start
  imu := (Imu.threads P parameters.publishTemperature).toSystem.start
  cameraPublisher := none
  imuPublisher := none
  processFailed := false
  stopRequested := false
  ok := true
  exitCode := 0
  escaped := false
  ending := none

variable (D P) in
/-- The threads of the process, none of which runs once it has ended. -/
def process : Threads Thread (Process D P) Local (Act D P) where
  shared := .init parameters
  locals
    | .main => main parameters
    | .camera => ()
    | .imu => ()
    | .signals => ()
  step
    | .main, a, s, l => mainStep parameters a s l
    | .camera, e, s, l =>
      if s.ending = none ∧ s.cameraInside e then (s.cameraStep parameters e).map (·, l) else none
    | .imu, e, s, l =>
      if s.ending = none ∧ s.imuInside e then (s.imuStep parameters e).map (·, l) else none
    | .signals, _, s, l =>
      if s.ending = none then some ({ s with stopRequested := true }, l) else none

end Steps
end RoboBaton.Node
