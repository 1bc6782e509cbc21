import RoboBaton.Camera.Failures
import RoboBaton.Imu.Failures
import RoboBaton.Node.Main

/-! What becomes of a failure in the process: what the main thread knows of the two cores at each
instruction, and what their steps leave of it. -/

namespace RoboBaton.Node
open Transition Discipline
variable {D P : Type} {s t : Process D P}

/-- What makes the process fail. -/
inductive Mishap (s : Process D P) : Prop
  | escaped (h : s.escaped = true)
  | callbackException (d : D) (h : .callbackException d ∈ s.camera.shared.incidents)
  | cameraSinkException (c : Camera.CameraId) (h : .sinkException c ∈ s.camera.shared.incidents)
  | joinFailed (h : .joinFailed ∈ s.camera.shared.incidents)
  | malformedSample (h : .malformedSample ∈ s.imu.shared.incidents)
  | ringOverflow (h : .ringOverflow ∈ s.imu.shared.incidents)
  | imuSinkException (h : .sinkException ∈ s.imu.shared.incidents)
  | stopFailed (h : .stopFailed ∈ s.imu.shared.incidents)

theorem Mishap.imu (h : s.imu.shared.incidents ≠ []) : Mishap s := by
  obtain ⟨i, hi⟩ := List.exists_mem_of_ne_nil _ h
  cases i with
  | malformedSample => exact .malformedSample hi
  | ringOverflow => exact .ringOverflow hi
  | sinkException => exact .imuSinkException hi
  | stopFailed => exact .stopFailed hi

/-- A failure of the camera core other than a failed `Start`, which makes the constructor
throw. -/
theorem Mishap.camera (h : s.camera.shared.incidents ≠ [])
    (hstart : .startFailed ∉ s.camera.shared.incidents) : Mishap s := by
  obtain ⟨i, hi⟩ := List.exists_mem_of_ne_nil _ h
  cases i with
  | callbackException d => exact .callbackException d hi
  | sinkException c => exact .cameraSinkException c hi
  | joinFailed => exact .joinFailed hi
  | startFailed => exact absurd hi hstart

theorem Mishap.mono (h : Mishap s) (hescaped : s.escaped = true → t.escaped = true)
    (hcamera : s.camera.shared.incidents <+: t.camera.shared.incidents)
    (himu : s.imu.shared.incidents <+: t.imu.shared.incidents) : Mishap t := by
  cases h with
  | escaped h => exact .escaped (hescaped h)
  | callbackException d h => exact .callbackException d (hcamera.subset h)
  | cameraSinkException c h => exact .cameraSinkException c (hcamera.subset h)
  | joinFailed h => exact .joinFailed (hcamera.subset h)
  | malformedSample h => exact .malformedSample (himu.subset h)
  | ringOverflow h => exact .ringOverflow (himu.subset h)
  | imuSinkException h => exact .imuSinkException (himu.subset h)
  | stopFailed h => exact .stopFailed (himu.subset h)

/-- What a set `g_process_failed` stands for. -/
def Guilty (s : Process D P) : Prop :=
  s.camera.shared.failed = true ∨ .joinFailed ∈ s.camera.shared.incidents ∨
    Imu.Charged s.imu.shared

/-! ### What the main thread knows of the cores -/

def CameraAccepted (s : Process D P) : Prop := .returnStart .started ∈ s.camera.shared.events

def CameraUntouched (s : Process D P) : Prop :=
  s.cameraPublisher = none ∧ s.cameraCall = [] ∧ s.camera.shared.startClaimed = false ∧
    s.camera.shared.failed = false

def CameraStill (s : Process D P) : Prop :=
  s.cameraCall = [] ∧ s.camera.shared.cleanupComplete = true ∧ s.camera.shared.failed = false

def CameraDone (s : Process D P) : Prop :=
  CameraUntouched s ∨ CameraAccepted s ∧ (s.processFailed = true ∨ CameraStill s)

def ImuAccepted (s : Process D P) : Prop := .returnStart true ∈ s.imu.shared.events

def ImuStopped (s : Process D P) : Prop := ∃ result, .returnStop result ∈ s.imu.shared.events

def ImuUntouched (s : Process D P) : Prop :=
  s.imuPublisher = none ∧ s.imuCall = [] ∧ s.imu.shared.events = [] ∧
    s.imu.shared.startClaimed = false ∧ s.imu.shared.failed = false ∧
    s.imu.shared.stopFailed = false

/-- A further `Stop`, that of the destructor, changes nothing. -/
def ImuStill (s : Process D P) : Prop :=
  ImuStopped s ∧ s.imu.shared.failed = false ∧ s.imu.shared.stopFailed = false ∧
    (s.imuCall = [] ∨ s.imuCall = [.stopGuard] ∨ ∃ result, s.imuCall = [.returnStop result])

def ImuDone (s : Process D P) : Prop :=
  ImuUntouched s ∨ ImuAccepted s ∧ (s.processFailed = true ∨ ImuStill s)

inductive Fact
  | caught
  | thrown
  | mishap
  | cameraAccepted
  | cameraReady
  | cameraCleaned
  | cameraDone
  | imuAccepted
  | imuReady
  | imuStopped
  | imuDone
  deriving DecidableEq

/-- What is known of a node from which no exception has escaped. -/
def Known (s : Process D P) : Fact → Prop
  | .caught => True
  | .thrown => False
  | .mishap => Mishap s
  | .cameraAccepted => CameraAccepted s
  | .cameraReady => CameraDone s ∨ CameraAccepted s ∧ s.cameraPublisher = some true
  | .cameraCleaned => s.cameraCall = [] ∧ s.camera.shared.cleanupComplete = true
  | .cameraDone => CameraDone s
  | .imuAccepted => ImuAccepted s
  | .imuReady => ImuDone s ∨ ImuAccepted s ∧ s.imuPublisher = some true
  | .imuStopped => s.imuCall = [] ∧ ImuStopped s ∧
      (s.processFailed = true ∨ s.imu.shared.stopFailed = false)
  | .imuDone => ImuDone s

def Holds (s : Process D P) : Fact → Prop
  | .caught => s.exitCode = if s.escaped then 1 else 0
  | f => s.escaped = true ∨ Known s f

def cameraFacts : List Fact := [.cameraReady, .cameraCleaned, .cameraDone]

def imuFacts : List Fact := [.imuReady, .imuStopped, .imuDone]

@[simp] def rules : Rules MainOp Fact where
  ends := []
  contract
    | .loadParameters => {}
    | .makeImu => { loses := imuFacts }
    | .startImu => { loses := imuFacts }
    | .startImuReturn => { gives := [.imuReady], loses := imuFacts }
    | .startImuTimer => {}
    | .makeCamera => { loses := cameraFacts }
    | .configureCamera => {}
    | .startCamera => { loses := cameraFacts }
    | .startCameraReturn => { gives := [.cameraReady], loses := cameraFacts }
    | .startCameraTimer => {}
    | .addNode => {}
    -- these may leave the loop
    | .loadStopRequested => { needs := [.cameraReady, .imuReady, .caught] }
    | .loadOk => { needs := [.cameraReady, .imuReady, .caught] }
    | .loadProcessFailed => { needs := [.cameraReady, .imuReady, .caught] }
    | .spinOnce => { needs := [.cameraReady, .imuReady, .caught] }
    | .removeNode => {}
    | .stopCamera =>
      { needs := [.cameraReady], gives := [.cameraDone, .cameraReady], loses := cameraFacts }
    | .cleanupCamera => { needs := [.cameraAccepted], loses := cameraFacts }
    | .cleanupCameraReturn =>
      { needs := [.cameraAccepted], gives := [.cameraCleaned], loses := cameraFacts }
    | .loadCameraFailed =>
      { needs := [.cameraAccepted, .cameraCleaned], gives := [.cameraDone, .cameraReady]
        loses := cameraFacts }
    | .exitProcess => { needs := [.mishap] }
    | .resetCamera =>
      { needs := [.cameraDone], gives := [.cameraDone, .cameraReady], loses := cameraFacts }
    | .stopImu => { needs := [.imuReady], gives := [.imuDone, .imuReady], loses := imuFacts }
    | .stopImuCore => { needs := [.imuAccepted], loses := imuFacts }
    | .stopImuCoreReturn =>
      { needs := [.imuAccepted], gives := [.imuStopped], loses := imuFacts }
    | .loadImuFailed =>
      { needs := [.imuAccepted, .imuStopped], gives := [.imuDone, .imuReady], loses := imuFacts }
    | .destroyImuCore =>
      { needs := [.imuDone], gives := [.imuDone, .imuReady], loses := imuFacts }
    | .destroyImuCoreReturn =>
      { needs := [.imuDone], gives := [.imuDone, .imuReady], loses := imuFacts }
    | .resetImu =>
      { needs := [.imuDone], gives := [.imuDone, .imuReady], loses := imuFacts }
    | .catchError => { needs := [.thrown], gives := [.caught] }
    | .shutdown => {}
    | .returnExitCode => { needs := [.cameraDone, .imuDone, .caught] }

/-! ### The programs -/

section Programs
variable {known : Fact → Prop}

theorem safe_afterLoop (hcamera : known .cameraReady) (himu : known .imuReady)
    (hcaught : known .caught) : rules.Safe known afterLoop := by
  simp [afterLoop, stopPublishers, destroyCamera, destroyImu, leave, cameraFacts, imuFacts, hcamera,
    himu, hcaught]

theorem safe_loop {rest : List MainOp} (hcamera : known .cameraReady) (himu : known .imuReady)
    (hcaught : known .caught) (hrest : rules.Safe known rest) : rules.Safe known (loop ++ rest) := by
  refine ⟨by simp [*], by simp [*], by simp [*], by simp [*], hrest.mono fun f hf => by simp [hf]⟩

theorem safe_main (parameters : Parameters) (hcamera : known .cameraReady)
    (himu : known .imuReady) (hcaught : known .caught) : rules.Safe known (main parameters) := by
  cases henable : parameters.enableCamera <;> cases henable' : parameters.enableImu <;>
    simp [main, construct, loop, afterLoop, stopPublishers, destroyCamera, destroyImu, leave,
      cameraFacts, imuFacts, henable, henable', hcamera, himu, hcaught]

theorem safe_unwind {unwind : List MainOp} (h : unwind = destroyMembers ∨ unwind = stopPublishers)
    (hall : ∀ f, f ≠ .caught → known f) : rules.Safe known (unwind ++ .catchError :: leave) := by
  have hcamera : known .cameraReady := hall _ (by decide)
  have himu : known .imuReady := hall _ (by decide)
  have hthrown : known .thrown := hall _ (by decide)
  rcases h with rfl | rfl <;>
    simp [destroyMembers, stopPublishers, destroyCamera, destroyImu, leave, cameraFacts, imuFacts,
      hcamera, himu, hthrown]

theorem safe_cleanup {rest : List MainOp} (haccepted : known .cameraAccepted)
    (hrest : rules.Safe (rules.after known .stopCamera) rest) :
    rules.Safe known ([.cleanupCamera, .cleanupCameraReturn, .loadCameraFailed] ++ rest) :=
  ⟨by simp [haccepted], by simp [haccepted, cameraFacts], by simp [haccepted, cameraFacts],
    hrest.mono fun _ hf => hf.imp_left fun hk => ⟨.inl ⟨.inl hk, hk.2⟩, hk.2⟩⟩

theorem safe_stop {rest : List MainOp} (haccepted : known .imuAccepted)
    (hrest : rules.Safe (rules.after known .stopImu) rest) :
    rules.Safe known ([.stopImuCore, .stopImuCoreReturn, .loadImuFailed] ++ rest) :=
  ⟨by simp [haccepted], by simp [haccepted, imuFacts], by simp [haccepted, imuFacts],
    hrest.mono fun _ hf => hf.imp_left fun hk => ⟨.inl ⟨.inl hk, hk.2⟩, hk.2⟩⟩

end Programs

/-! ### What is known as long as a core does nothing -/

theorem CameraDone.congr (h : CameraDone s) (hcamera : t.camera = s.camera)
    (hpublisher : t.cameraPublisher = s.cameraPublisher ∨ t.cameraPublisher = none)
    (hfailed : s.processFailed = true → t.processFailed = true) : CameraDone t := by
  rcases h with ⟨hnone, hcall, hstart, hfailure⟩ | ⟨haccepted, hstill⟩
  · refine .inl ⟨hpublisher.elim (·.trans hnone) id, ?_, ?_, ?_⟩
    · rwa [Process.cameraCall, hcamera]
    · rwa [hcamera]
    · rwa [hcamera]
  · refine .inr ⟨?_, hstill.imp hfailed ?_⟩
    · rwa [CameraAccepted, hcamera]
    · rw [CameraStill, CameraStill, Process.cameraCall, Process.cameraCall, hcamera]
      exact id

theorem ImuDone.congr (h : ImuDone s) (himu : t.imu = s.imu)
    (hpublisher : t.imuPublisher = s.imuPublisher ∨ t.imuPublisher = none)
    (hfailed : s.processFailed = true → t.processFailed = true) : ImuDone t := by
  rcases h with ⟨hnone, hrest⟩ | ⟨haccepted, hstill⟩
  · refine .inl ⟨hpublisher.elim (·.trans hnone) id, ?_⟩
    rwa [Process.imuCall, himu]
  · refine .inr ⟨?_, hstill.imp hfailed ?_⟩
    · rwa [ImuAccepted, himu]
    · rw [ImuStill, ImuStill, ImuStopped, ImuStopped, Process.imuCall, Process.imuCall, himu]
      exact id

theorem Holds.idleCamera {f : Fact} (h : Holds s f) (hf : f ∈ .cameraAccepted :: cameraFacts)
    (hcamera : t.camera = s.camera)
    (hpublisher : f ∈ cameraFacts → t.cameraPublisher = s.cameraPublisher)
    (hfailed : s.processFailed = true → t.processFailed = true)
    (hescaped : s.escaped = true → t.escaped = true) : Holds t f := by
  have hdone : f ∈ cameraFacts → CameraDone s → CameraDone t := fun hf hd =>
    hd.congr hcamera (.inl (hpublisher hf)) hfailed
  have haccepted : CameraAccepted s → CameraAccepted t := by
    rw [CameraAccepted, CameraAccepted, hcamera]
    exact id
  cases f with
  | cameraAccepted => exact h.imp hescaped haccepted
  | cameraDone => exact h.imp hescaped (hdone (by decide))
  | cameraReady =>
    exact h.imp hescaped (Or.imp (hdone (by decide)) (And.imp haccepted (hpublisher (by decide)).trans))
  | cameraCleaned =>
    refine h.imp hescaped ?_
    rw [Known, Known, Process.cameraCall, Process.cameraCall, hcamera]
    exact id
  | _ => simp [cameraFacts] at hf

theorem Holds.idleImu {f : Fact} (h : Holds s f) (hf : f ∈ .imuAccepted :: imuFacts)
    (himu : t.imu = s.imu)
    (hpublisher : f ∈ imuFacts → t.imuPublisher = s.imuPublisher)
    (hfailed : s.processFailed = true → t.processFailed = true)
    (hescaped : s.escaped = true → t.escaped = true) : Holds t f := by
  have hdone : f ∈ imuFacts → ImuDone s → ImuDone t := fun hf hd =>
    hd.congr himu (.inl (hpublisher hf)) hfailed
  have haccepted : ImuAccepted s → ImuAccepted t := by
    rw [ImuAccepted, ImuAccepted, himu]
    exact id
  cases f with
  | imuAccepted => exact h.imp hescaped haccepted
  | imuDone => exact h.imp hescaped (hdone (by decide))
  | imuReady =>
    exact h.imp hescaped (Or.imp (hdone (by decide)) (And.imp haccepted (hpublisher (by decide)).trans))
  | imuStopped =>
    refine h.imp hescaped ?_
    rw [Known, Known, ImuStopped, ImuStopped, Process.imuCall, Process.imuCall, himu]
    exact And.imp_right (And.imp_right (Or.imp_left hfailed))
  | _ => simp [imuFacts] at hf

structure Kept (s t : Process D P) : Prop where
  camera : t.camera = s.camera
  imu : t.imu = s.imu
  exitCode : t.exitCode = s.exitCode
  escaped : t.escaped = s.escaped
  ending : t.ending = s.ending
  processFailed : s.processFailed = true → t.processFailed = true

theorem Kept.holds (hk : Kept s t) {f : Fact}
    (hcamera : f ∈ cameraFacts → t.cameraPublisher = s.cameraPublisher)
    (himu : f ∈ imuFacts → t.imuPublisher = s.imuPublisher) (h : Holds s f) : Holds t f := by
  have hmishap : Mishap s → Mishap t := fun hm =>
    hm.mono hk.escaped.trans (hk.camera ▸ List.prefix_refl _) (hk.imu ▸ List.prefix_refl _)
  cases f with
  | caught =>
    simp only [Holds, hk.escaped, hk.exitCode]
    exact h
  | thrown => exact h.imp_left hk.escaped.trans
  | mishap => exact h.imp hk.escaped.trans hmishap
  | cameraAccepted | cameraReady | cameraCleaned | cameraDone =>
    exact h.idleCamera (by decide) hk.camera hcamera hk.processFailed hk.escaped.trans
  | imuAccepted | imuReady | imuStopped | imuDone =>
    exact h.idleImu (by decide) hk.imu himu hk.processFailed hk.escaped.trans

theorem cameraReady_of_done (h : Holds s .cameraDone) : Holds s .cameraReady := Or.imp_right .inl h

theorem ready_camera (h : Holds s .cameraReady) :
    (s.cameraPublisher ≠ some true → Holds s .cameraDone) ∧
      (s.cameraPublisher ≠ none → Holds s .cameraAccepted) := by
  rcases h with hescaped | (huntouched | haccepted) | haccepted
  · exact ⟨fun _ => .inl hescaped, fun _ => .inl hescaped⟩
  · exact ⟨fun _ => .inr (.inl huntouched), fun hp => absurd huntouched.1 hp⟩
  · exact ⟨fun _ => .inr (.inr haccepted), fun _ => .inr haccepted.1⟩
  · exact ⟨fun hp => absurd haccepted.2 hp, fun _ => .inr haccepted.1⟩

theorem imuReady_of_done (h : Holds s .imuDone) : Holds s .imuReady := Or.imp_right .inl h

theorem ready_imu (h : Holds s .imuReady) :
    (s.imuPublisher ≠ some true → Holds s .imuDone) ∧
      (s.imuPublisher ≠ none → Holds s .imuAccepted) := by
  rcases h with hescaped | (huntouched | haccepted) | haccepted
  · exact ⟨fun _ => .inl hescaped, fun _ => .inl hescaped⟩
  · exact ⟨fun _ => .inr (.inl huntouched), fun hp => absurd huntouched.1 hp⟩
  · exact ⟨fun _ => .inr (.inr haccepted), fun _ => .inr haccepted.1⟩
  · exact ⟨fun hp => absurd haccepted.2 hp, fun _ => .inr haccepted.1⟩

/-! ### Steps of the cores -/

theorem outside_camera [DecidableEq D] {e : Σ i : Camera.Thread D, Camera.Act i}
    (hinside : s.cameraInside e = true) (hcall : s.cameraCall = []) : e.1 ≠ .owner := by
  intro howner
  simp [Process.cameraInside, howner, hcall] at hinside

theorem outside_imu {e : Σ i, Imu.Act P i} (hinside : s.imuInside e = true)
    (hcall : s.imuCall = []) : e.1 ≠ .owner := by
  intro howner
  simp [Process.imuInside, howner, hcall] at hinside

section CameraSteps
variable [Fintype D] [DecidableEq D] {parameters : Parameters}

/-- What a step of the camera core does to the process. -/
structure CameraEffect (parameters : Parameters) (s t : Process D P)
    (e : Σ i : Camera.Thread D, Camera.Act i) : Prop where
  next : (Camera.threads D parameters.publishCameraInfo).next e s.camera = some t.camera
  imu : t.imu = s.imu
  cameraPublisher : t.cameraPublisher = s.cameraPublisher
  imuPublisher : t.imuPublisher = s.imuPublisher
  exitCode : t.exitCode = s.exitCode
  escaped : t.escaped = s.escaped
  ending : t.ending = s.ending
  processFailed : s.processFailed = true → t.processFailed = true
  notified : t.processFailed = true → s.processFailed = true ∨ 0 < t.camera.shared.notifications

theorem cameraStep_effect {e : Σ i : Camera.Thread D, Camera.Act i}
    (h : s.cameraStep parameters e = some t) : CameraEffect parameters s t e := by
  obtain ⟨camera, hnext, rfl⟩ := Option.map_eq_some_iff.mp h
  split
  · rename_i hnotified
    exact ⟨hnext, rfl, rfl, rfl, rfl, rfl, rfl, fun _ => rfl, fun _ => .inr (Nat.zero_lt_of_lt hnotified)⟩
  · exact ⟨hnext, rfl, rfl, rfl, rfl, rfl, rfl, id, .inl⟩

namespace CameraEffect
variable {e : Σ i : Camera.Thread D, Camera.Act i}

theorem onward (he : CameraEffect parameters s t e) :
    Camera.Onward s.camera.shared t.camera.shared ∧
      s.camera.shared.events <+: t.camera.shared.events := by
  obtain ⟨c, l, hst, ht⟩ := Threads.next_eq_some he.next
  rw [ht]
  exact ⟨Camera.step_onward hst, Camera.threads_events hst⟩

theorem mishap (he : CameraEffect parameters s t e) (h : Mishap s) : Mishap t :=
  h.mono he.escaped.trans he.onward.1.incidents (he.imu ▸ List.prefix_refl _)

theorem holds (he : CameraEffect parameters s t e) {f : Fact} (hf : f ∉ cameraFacts)
    (h : Holds s f) : Holds t f := by
  cases f with
  | caught =>
    simp only [Holds, he.escaped, he.exitCode]
    exact h
  | thrown => exact h.imp_left he.escaped.trans
  | mishap => exact h.imp he.escaped.trans he.mishap
  | cameraAccepted => exact h.imp he.escaped.trans fun haccepted => he.onward.2.subset haccepted
  | cameraReady | cameraCleaned | cameraDone => simp [cameraFacts] at hf
  | _ =>
    exact h.idleImu (by decide) he.imu (fun _ => he.imuPublisher) he.processFailed
      he.escaped.trans

theorem ownerStep {a : Camera.OwnerAct} (he : CameraEffect parameters s t ⟨.owner, a⟩) :
    ∃ l, Camera.ownerStep a s.camera.shared (s.camera.locals .owner) = some (t.camera.shared, l) ∧
      t.cameraCall = l.ops := by
  obtain ⟨c, l, hst, ht⟩ := Threads.next_eq_some he.next
  rw [Process.cameraCall, ht]
  have hlocal : Function.update s.camera.locals .owner l .owner = l := Function.update_self ..
  exact ⟨l, hst, congrArg Camera.OwnerLocal.ops hlocal⟩

theorem returnStart {result : Camera.StartResult}
    (he : CameraEffect parameters s t ⟨.owner, .step⟩)
    (hcall : s.cameraCall = [.returnStart result]) :
    .returnStart result ∈ t.camera.shared.events := by
  obtain ⟨l, hst, -⟩ := he.ownerStep
  obtain ⟨-, hops, -⟩ | ⟨op, ops, hops, hexec⟩ := Camera.ownerStep_cases hst
  · exact absurd (hcall.symm.trans hops) (by simp)
  · obtain ⟨rfl, rfl⟩ := List.cons.inj (hcall.symm.trans hops)
    obtain ⟨hshared, -⟩ := Prod.mk.inj (Option.some.inj hexec)
    simp [← hshared, Camera.Core.emit]

end CameraEffect
end CameraSteps

section ImuSteps
variable [Inhabited P] {parameters : Parameters}

structure ImuEffect (parameters : Parameters) (s t : Process D P) (e : Σ i, Imu.Act P i) : Prop where
  next : (Imu.threads P parameters.publishTemperature).next e s.imu = some t.imu
  camera : t.camera = s.camera
  cameraPublisher : t.cameraPublisher = s.cameraPublisher
  imuPublisher : t.imuPublisher = s.imuPublisher
  exitCode : t.exitCode = s.exitCode
  escaped : t.escaped = s.escaped
  ending : t.ending = s.ending
  processFailed : s.processFailed = true → t.processFailed = true
  notified : t.processFailed = true → s.processFailed = true ∨ 0 < t.imu.shared.notifications

theorem imuStep_effect {e : Σ i, Imu.Act P i} (h : s.imuStep parameters e = some t) :
    ImuEffect parameters s t e := by
  obtain ⟨imu, hnext, rfl⟩ := Option.map_eq_some_iff.mp h
  split
  · rename_i hnotified
    exact ⟨hnext, rfl, rfl, rfl, rfl, rfl, rfl, fun _ => rfl, fun _ => .inr (Nat.zero_lt_of_lt hnotified)⟩
  · exact ⟨hnext, rfl, rfl, rfl, rfl, rfl, rfl, id, .inl⟩

namespace ImuEffect
variable {e : Σ i, Imu.Act P i}

theorem onward (he : ImuEffect parameters s t e) :
    Imu.Blaming s.imu.shared t.imu.shared e.1.failures ∧
      s.imu.shared.events <+: t.imu.shared.events := by
  obtain ⟨i, a⟩ := e
  obtain ⟨c, l, hst, ht⟩ := Threads.next_eq_some he.next
  rw [ht]
  exact ⟨Imu.threads_blaming hst, Imu.threads_events hst⟩

theorem mishap (he : ImuEffect parameters s t e) (h : Mishap s) : Mishap t :=
  h.mono he.escaped.trans (he.camera ▸ List.prefix_refl _) he.onward.1.incidents

theorem holds (he : ImuEffect parameters s t e) {f : Fact} (hf : f ∉ imuFacts) (h : Holds s f) :
    Holds t f := by
  cases f with
  | caught =>
    simp only [Holds, he.escaped, he.exitCode]
    exact h
  | thrown => exact h.imp_left he.escaped.trans
  | mishap => exact h.imp he.escaped.trans he.mishap
  | imuAccepted => exact h.imp he.escaped.trans fun haccepted => he.onward.2.subset haccepted
  | imuReady | imuStopped | imuDone => simp [imuFacts] at hf
  | _ =>
    exact h.idleCamera (by decide) he.camera (fun _ => he.cameraPublisher) he.processFailed
      he.escaped.trans

theorem ownerStep {a : Imu.OwnerAct} (he : ImuEffect parameters s t ⟨.owner, a⟩) :
    ∃ l, Imu.ownerStep a s.imu.shared (s.imu.locals .owner) = some (t.imu.shared, l) ∧
      t.imuCall = l.ops := by
  obtain ⟨c, l, hst, ht⟩ := Threads.next_eq_some he.next
  rw [Process.imuCall, ht]
  have hlocal : Function.update s.imu.locals .owner l .owner = l := Function.update_self ..
  exact ⟨l, hst, congrArg Imu.OwnerLocal.ops hlocal⟩

theorem call (he : ImuEffect parameters s t e) (howner : e.1 ≠ .owner) : t.imuCall = s.imuCall := by
  obtain ⟨i, a⟩ := e
  obtain ⟨c, l, -, ht⟩ := Threads.next_eq_some he.next
  rw [Process.imuCall, Process.imuCall, ht]
  exact congrArg Imu.OwnerLocal.ops (Function.update_of_ne (Ne.symm howner) _ _)

theorem returnStart {result : Bool}
    (he : ImuEffect parameters s t ⟨.owner, .reply .done⟩)
    (hcall : s.imuCall = [.returnStart result]) :
    .returnStart result ∈ t.imu.shared.events := by
  obtain ⟨l, hst, -⟩ := he.ownerStep
  obtain ⟨-, hops, -⟩ | ⟨op, ops, r, hops, hexec, -⟩ := Imu.ownerStep_cases hst
  · exact absurd (hcall.symm.trans hops) (by simp)
  · obtain ⟨rfl, rfl⟩ := List.cons.inj (hcall.symm.trans hops)
    cases r <;> try cases hexec
    obtain ⟨hshared, -⟩ := Prod.mk.inj (Option.some.inj hexec)
    simp [← hshared, Imu.Core.emit]

theorem destruct (he : ImuEffect parameters s t ⟨.owner, .destruct⟩) :
    t.imu.shared = s.imu.shared ∧ t.imuCall = [.stopGuard] := by
  obtain ⟨l, hst, hl⟩ := he.ownerStep
  obtain ⟨hshared, hops⟩ := Imu.ownerStep_destruct hst
  exact ⟨hshared, hl.trans hops⟩

end ImuEffect
end ImuSteps

end RoboBaton.Node
