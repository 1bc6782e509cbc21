import RoboBaton.Camera.Requests
import RoboBaton.Imu.Progress
import RoboBaton.Imu.Requests
import RoboBaton.Node.Constructor
import RoboBaton.Node.ExitStatus

/-! What the process asks of its hardware: in every run the drivers are called with what the
accepted parameters say, and the queues and workers are those of the enabled cameras. -/

namespace RoboBaton.Node
open Transition Discipline
variable {D P : Type} {parameters : Parameters} {s t : Process D P}

/-! ### The configurations that the main thread passes on -/

def CameraChosen (parameters : Parameters) (config : Camera.CameraCoreConfig) : Prop :=
  parameters.enableCamera = true ∧ config = parameters.camera

def ImuChosen (parameters : Parameters) (config : Imu.CoreConfig) : Prop :=
  parameters.enableImu = true ∧ config = parameters.imu

def Enabled (parameters : Parameters) (ops : List MainOp) : Prop :=
  (.startCamera ∈ ops → parameters.enableCamera = true) ∧
    (.startImu ∈ ops → parameters.enableImu = true)

/-- Both cores work with the configuration of the parameters, if they work at all. -/
structure Chosen (parameters : Parameters) (s : Process D P) : Prop where
  camera : Camera.Fixed (CameraChosen parameters) s.camera
  imu : Imu.Fixed (ImuChosen parameters) s.imu

theorem Enabled.of_subset {ops ops' : List MainOp} (h : Enabled parameters ops)
    (hsub : ∀ op ∈ ops', op = .startCamera ∨ op = .startImu → op ∈ ops) : Enabled parameters ops' :=
  ⟨fun hmem => h.1 (hsub _ hmem (.inl rfl)), fun hmem => h.2 (hsub _ hmem (.inr rfl))⟩

theorem Enabled.tail {op : MainOp} {rest : List MainOp} (h : Enabled parameters (op :: rest)) :
    Enabled parameters rest :=
  h.of_subset fun _ hmem _ => List.mem_cons_of_mem _ hmem

theorem enabled_main (parameters : Parameters) : Enabled parameters (main parameters) := by
  cases hcamera : parameters.enableCamera <;> cases himu : parameters.enableImu <;>
    simp [Enabled, main, construct, hcamera, himu, loop, afterLoop, stopPublishers, destroyCamera,
      destroyImu, leave]

theorem Enabled.prepend {ins rest : List MainOp} (h : Enabled parameters rest)
    (hins : .startCamera ∉ ins ∧ .startImu ∉ ins) : Enabled parameters (ins ++ rest) := by
  refine h.of_subset fun op hmem hop => ?_
  rcases List.mem_append.mp hmem with hmem | hmem
  · rcases hop with rfl | rfl
    · exact absurd hmem hins.1
    · exact absurd hmem hins.2
  · exact hmem

theorem enabled_nil : Enabled parameters [] := by simp [Enabled]

theorem Chosen.cameraStep [Fintype D] [DecidableEq D] {e : Σ i : Camera.Thread D, Camera.Act i}
    (h : Chosen parameters s) (hcalls : Camera.Calls (CameraChosen parameters) e) (he : CameraEffect parameters s t e) :
    Chosen parameters t :=
  ⟨Camera.next_fixed h.camera hcalls he.next, he.imu ▸ h.imu⟩

theorem Chosen.imuStep [Inhabited P] {e : Σ i, Imu.Act P i} (h : Chosen parameters s)
    (hcalls : Imu.Calls (ImuChosen parameters) e) (he : ImuEffect parameters s t e) :
    Chosen parameters t :=
  ⟨he.camera ▸ h.camera, Imu.next_fixed h.imu hcalls he.next⟩

theorem Chosen.of_eq (h : Chosen parameters s) (hcamera : t.camera = s.camera)
    (himu : t.imu = s.imu) :
    Chosen parameters t :=
  ⟨hcamera ▸ h.camera, himu ▸ h.imu⟩

theorem throw_chosen {unwind ops : List MainOp} {standard : Bool} (hC : Chosen parameters s)
    (hunwind : .startCamera ∉ unwind ∧ .startImu ∉ unwind) (h : s.throw unwind standard = (t, ops)) :
    Chosen parameters t ∧ Enabled parameters ops := by
  cases standard with
  | true =>
    cases h
    refine ⟨hC.of_eq rfl rfl, ?_⟩
    have hleave : Enabled parameters (.catchError :: leave) := by simp [Enabled, leave]
    exact hleave.prepend hunwind
  | false =>
    cases h
    exact ⟨hC.of_eq rfl rfl, enabled_nil⟩

theorem destroyMembers_starts : .startCamera ∉ destroyMembers ∧ .startImu ∉ destroyMembers := by
  decide

theorem unwind_starts (op : MainOp) {unwind : List MainOp} (h : op.unwind = some unwind) :
    .startCamera ∉ unwind ∧ .startImu ∉ unwind := by
  cases op <;> cases h <;> decide

/-! ### The steps of the process -/

section Process
variable [Fintype D] [DecidableEq D] [Inhabited P]

omit [Inhabited P] in
theorem chosen_cameraCall {a : Camera.OwnerAct} (hC : Chosen parameters s)
    (hcalls : ∀ config sink notifier, a = .start config sink notifier →
      CameraChosen parameters config)
    (hu : s.cameraStep parameters ⟨.owner, a⟩ = some t) : Chosen parameters t := by
  refine hC.cameraStep (fun config sink notifier he => ?_) (cameraStep_effect hu)
  cases he
  exact hcalls config sink notifier rfl

omit [Fintype D] [DecidableEq D] in
theorem chosen_imuCall {a : Imu.OwnerAct} (hC : Chosen parameters s)
    (hcalls : ∀ config sink notifier, a = .start config sink notifier → ImuChosen parameters config)
    (hu : s.imuStep parameters ⟨.owner, a⟩ = some t) : Chosen parameters t := by
  refine hC.imuStep (fun config sink notifier he => ?_) (imuStep_effect hu)
  cases he
  exact hcalls config sink notifier rfl

omit [Inhabited P] in
theorem chosen_cameraReturn (hC : Chosen parameters s)
    (he : CameraEffect parameters s t ⟨.owner, .step⟩) : Chosen parameters t :=
  hC.cameraStep (fun config sink notifier heq => by cases heq) he

omit [Fintype D] [DecidableEq D] in
theorem chosen_imuReturn (hC : Chosen parameters s)
    (he : ImuEffect parameters s t ⟨.owner, .reply .done⟩) : Chosen parameters t :=
  hC.imuStep (fun config sink notifier heq => by cases heq) he

theorem enabled_loop {rest : List MainOp} (h : Enabled parameters rest) :
    Enabled parameters (loop ++ rest) := h.prepend (by decide)

theorem enabled_afterLoop : Enabled parameters afterLoop := by
  simp [Enabled, afterLoop, stopPublishers, destroyCamera, destroyImu, leave]

theorem exec_chosen {op : MainOp} {rest ops : List MainOp} {a : MainAct} (hC : Chosen parameters s)
    (hE : Enabled parameters (op :: rest)) (h : op.exec parameters s rest a = some (t, ops)) :
    Chosen parameters t ∧ Enabled parameters ops := by
  have hrest := hE.tail
  cases a with
  | throws standard =>
    obtain ⟨unwind, hunwind, hthrow⟩ := throws_cases h
    exact throw_chosen hC (unwind_starts op hunwind) hthrow
  | step =>
    cases op with
    | loadParameters | startImuTimer | configureCamera | startCameraTimer | addNode | removeNode
    | makeImu | makeCamera | loadCameraFailed | resetCamera | resetImu | catchError | shutdown
    | loadImuFailed =>
      cases h
      exact ⟨hC.of_eq rfl rfl, hrest⟩
    | exitProcess | returnExitCode =>
      cases h
      exact ⟨hC.of_eq rfl rfl, enabled_nil⟩
    | loadStopRequested | loadOk | loadProcessFailed =>
      cases h
      refine ⟨hC, ?_⟩
      split <;> first | exact hrest | exact enabled_afterLoop
    | spinOnce =>
      cases h
      exact ⟨hC, enabled_loop hrest⟩
    | startCamera =>
      -- the one place where a configuration enters the camera core
      obtain ⟨hu, rfl⟩ := step_cases h
      refine ⟨chosen_cameraCall hC (fun config sink notifier heq => ?_) hu, hrest⟩
      cases heq
      exact ⟨hE.1 List.mem_cons_self, rfl⟩
    | cleanupCamera =>
      obtain ⟨hu, rfl⟩ := step_cases h
      exact ⟨chosen_cameraCall hC (fun _ _ _ heq => by cases heq) hu, hrest⟩
    | startImu =>
      obtain ⟨hu, rfl⟩ := step_cases h
      refine ⟨chosen_imuCall hC (fun config sink notifier heq => ?_) hu, hrest⟩
      cases heq
      exact ⟨hE.2 List.mem_cons_self, rfl⟩
    | stopImuCore =>
      obtain ⟨hu, rfl⟩ := step_cases h
      exact ⟨chosen_imuCall hC (fun _ _ _ heq => by cases heq) hu, hrest⟩
    | startCameraReturn =>
      obtain ⟨result, u, -, hu, hends⟩ := startCameraReturn_cases h
      have hCu := chosen_cameraReturn hC (cameraStep_effect hu)
      obtain ⟨-, rfl, rfl⟩ | ⟨-, hthrow⟩ := hends
      · exact ⟨hCu.of_eq rfl rfl, hrest⟩
      · exact throw_chosen hCu destroyMembers_starts hthrow
    | startImuReturn =>
      obtain ⟨result, u, -, hu, hends⟩ := startImuReturn_cases h
      have hCu := chosen_imuReturn hC (imuStep_effect hu)
      obtain ⟨-, rfl, rfl⟩ | ⟨-, hthrow⟩ := hends
      · exact ⟨hCu.of_eq rfl rfl, hrest⟩
      · exact throw_chosen hCu destroyMembers_starts hthrow
    | cleanupCameraReturn =>
      obtain ⟨result, u, -, hu, hends⟩ := cleanupCameraReturn_cases h
      have hCu := chosen_cameraReturn hC (cameraStep_effect hu)
      obtain ⟨-, rfl, rfl⟩ | ⟨-, rfl, rfl⟩ := hends
      · exact ⟨hCu, hrest⟩
      · exact ⟨hCu.of_eq rfl rfl, by simp [Enabled]⟩
    | stopImuCoreReturn =>
      obtain ⟨result, u, -, hu, rfl, rfl⟩ := stopImuCoreReturn_cases h
      exact ⟨(chosen_imuReturn hC (imuStep_effect hu)).of_eq rfl rfl, hrest⟩
    | stopCamera =>
      obtain ⟨rfl, ⟨rfl, -⟩ | ⟨rfl, -⟩⟩ := stopCamera_cases h
      · exact ⟨hC, hrest⟩
      · exact ⟨hC, hrest.prepend (by decide)⟩
    | stopImu =>
      obtain ⟨rfl, ⟨rfl, -⟩ | ⟨rfl, -⟩⟩ := stopImu_cases h
      · exact ⟨hC, hrest⟩
      · exact ⟨hC, hrest.prepend (by decide)⟩
    | destroyImuCore =>
      obtain ⟨rfl, ⟨-, rfl⟩ | ⟨-, hu⟩⟩ := destroyImuCore_cases h
      · exact ⟨hC, hrest⟩
      · exact ⟨chosen_imuCall hC (fun _ _ _ heq => by cases heq) hu, hrest⟩
    | destroyImuCoreReturn =>
      obtain ⟨rfl, ⟨-, rfl⟩ | ⟨-, result, -, hu⟩⟩ := destroyImuCoreReturn_cases h
      · exact ⟨hC, hrest⟩
      · exact ⟨chosen_imuReturn hC (imuStep_effect hu), hrest⟩

theorem others_chosen {i : Thread} {a : Act D P i} {l l' : Local i} (hi : i ≠ .main)
    (hC : Chosen parameters s) (h : (process D P parameters).step i a s l = some (t, l')) :
    Chosen parameters t := by
  cases i with
  | main => exact absurd rfl hi
  | camera =>
    obtain ⟨⟨-, hinside⟩, hst⟩ := Option.ite_none_right_eq_some.mp h
    obtain ⟨t, ht, hx⟩ := Option.map_eq_some_iff.mp hst
    cases hx
    have he := cameraStep_effect ht
    refine hC.cameraStep (fun config sink notifier heq => ?_) he
    subst heq
    obtain ⟨l, hst, -⟩ := he.ownerStep
    obtain ⟨-, hops, -⟩ | ⟨op, ops, -, hexec⟩ := Camera.ownerStep_cases hst
    · simp [Process.cameraInside, Process.cameraCall, hops] at hinside
    · cases op <;> cases hexec
  | imu =>
    obtain ⟨⟨-, hinside⟩, hst⟩ := Option.ite_none_right_eq_some.mp h
    obtain ⟨t, ht, hx⟩ := Option.map_eq_some_iff.mp hst
    cases hx
    have he := imuStep_effect ht
    refine hC.imuStep (fun config sink notifier heq => ?_) he
    subst heq
    obtain ⟨l, hst, -⟩ := he.ownerStep
    obtain ⟨r, hr⟩ := Imu.ownerStep_reply hst fun hops => outside_imu hinside hops rfl
    cases hr
  | signals =>
    obtain ⟨-, hst⟩ := Option.ite_none_right_eq_some.mp h
    cases hst
    exact hC.of_eq rfl rfl

theorem reachable_chosen {s : State D P} (h : (process D P parameters).Reachable s) :
    Chosen parameters s.shared := by
  refine (Threads.Reachable.focus (T := process D P parameters) (i := .main)
    (J := fun s ops => Chosen parameters s ∧ Enabled parameters ops) ⟨?_, ?_⟩ ?_ ?_ h).1
  · exact ⟨⟨by simp [process, Process.init, Threads.toSystem, Camera.threads],
        by simp [process, Process.init, Threads.toSystem, Camera.threads, Camera.Core.init]⟩,
      ⟨by simp [process, Process.init, Threads.toSystem, Imu.threads],
        by simp [process, Process.init, Threads.toSystem, Imu.threads, Imu.Core.init],
        by simp [process, Process.init, Threads.toSystem, Imu.threads, Imu.Core.init]⟩⟩
  · exact enabled_main parameters
  · intro s a s' ops _ hJ hst
    change mainStep parameters a s.shared (s.locals .main) = some (s', ops) at hst
    generalize (s.locals .main : List MainOp) = l at hst hJ
    cases l with
    | nil => cases hst
    | cons op rest =>
      obtain ⟨-, hexec⟩ := Option.ite_none_right_eq_some.mp hst
      exact exec_chosen hJ.1 hJ.2 hexec
  · intro s j a s' l' hj _ hJ hst
    exact ⟨others_chosen hj hJ.1 hst, hJ.2⟩

/-! ### The hardware -/

/-- The process runs with what its constructor has passed to the cores. -/
structure Passes (node : SensorNode) (starts : List CoreStart) (parameters : Parameters) :
    Prop where
  enableCamera : parameters.enableCamera = node.declareBool "enable_camera" true
  enableImu : parameters.enableImu = node.declareBool "enable_imu" true
  camera : ∀ config publishCameraInfo, .camera config publishCameraInfo ∈ starts →
    parameters.camera = config ∧ parameters.publishCameraInfo = publishCameraInfo
  imu : ∀ config publishTemperature, .imu config publishTemperature ∈ starts →
    parameters.imu = config ∧ parameters.publishTemperature = publishTemperature

/-- What the drivers are asked for is what the user wrote, and nothing is asked of the driver of
a sensor that is not enabled. -/
structure Obeyed (v : CameraValues) (w : ImuValues) (enableCamera enableImu : Bool)
    (s : Process D P) : Prop where
  fps : ∀ fps status, .setFps fps status ∈ s.camera.shared.events →
    (fps.toNat : Int) = v.fps ∧ v.fps ∈ [25, 30, 40, 50, 60]
  rotation : ∀ rotation status, .setOutputRotation rotation status ∈ s.camera.shared.events →
    (rotation.toNat : Int) = (v.rotateDegrees + 90) % 360 ∧ v.rotateDegrees ∈ [0, 90, 180, 270]
  frameSet : ∀ producer cameraMask, .startFrameSet producer cameraMask ∈ s.camera.shared.events →
    (cameraMask.toNat : Int) = v.cameraMask ∧
      (producer.cameraCount.toNat : Int) = (if v.cameraMask = 15 then 4 else 1) ∧
      (producer.width, producer.height) =
        (if v.rotateDegrees % 180 = 0 then (1280, 1088) else (1088, 1280)) ∧
      (producer.timeoutMs.toNat : Int) = v.frameSetTimeoutMs ∧
      (producer.maxSkewNs.toNat : Int) = v.frameSetMaxSkewNs
  valid : s.camera.shared.startClaimed = true → s.camera.shared.config.valid = true
  threads : ∀ c, s.camera.shared.workers c ≠ .none → v.cameraMask.toNat.testBit c.val = true
  queues : ∀ c q, s.camera.shared.queues c = some q → v.cameraMask.toNat.testBit c.val = true ∧
    (q.queue.length : Int) ≤ v.queueCapacity ∧ (q.dropNewest = true ↔ v.queuePolicy = "drop_newest")
  create : ∀ config status handle, .create config status handle ∈ s.imu.shared.events →
    (config.sampleRateHz.toNat : Int) = w.sampleRateHz ∧
      w.sampleRateHz ∈ [25, 50, 100, 200, 500, 1000, 2000] ∧ config.fifoWatermarkSamples = 1 ∧
      config.readMode = readModeSensorTimestampFifo
  cameraOff : enableCamera = false → s.camera.shared.startClaimed = false ∧
    ∀ e ∈ s.camera.shared.events, e.isRequest = false
  imuOff : enableImu = false → s.imu.shared.startClaimed = false ∧
    ∀ e ∈ s.imu.shared.events, e.isDriverCall = false

theorem enabled_testBit {v : CameraValues} {config : Camera.CameraCoreConfig} (hs : Supported v)
    (hmask : (config.cameraMask.toNat : Int) = v.cameraMask) {c : Camera.CameraId}
    (h : config.cameraEnabled c = true) : v.cameraMask.toNat.testBit c.val = true := by
  have hmem : config.cameraMask ∈ [1, 2, 4, 8, 15] := by
    have hvalue := hs.cameraMask
    rw [← hmask] at hvalue
    simp only [List.mem_cons, List.not_mem_nil, or_false, ← UInt32.toNat_inj] at hvalue ⊢
    norm_cast at hvalue
  rw [← hmask, Int.toNat_natCast]
  simp only [Camera.CameraCoreConfig.cameraEnabled] at h
  generalize config.cameraMask = mask at hmem h
  revert c
  simp only [List.mem_cons, List.not_mem_nil, or_false] at hmem
  rcases hmem with rfl | rfl | rfl | rfl | rfl <;> decide

theorem producer_delivers {v : CameraValues} {config : Camera.CameraCoreConfig}
    (h : Delivers v config) :
    (config.producer.cameraCount.toNat : Int) = if v.cameraMask = 15 then 4 else 1 := by
  rw [Camera.CameraCoreConfig.producer, h.cameraCount]
  split <;> rfl

structure Said (node : SensorNode) (v : CameraValues) (parameters : Parameters) : Prop where
  enableCamera : parameters.enableCamera = node.declareBool "enable_camera" true
  enableImu : parameters.enableImu = node.declareBool "enable_imu" true
  camera : parameters.enableCamera = true → Supported v ∧ Delivers v parameters.camera
  imu : parameters.enableImu = true →
    SupportedImu node.suppliedImu ∧ ImuDelivers node.suppliedImu parameters.imu

theorem said {N : Type} {w : Surroundings N} {node : SensorNode} {runId : Option (List UInt8)}
    {n₀ : N} {env : Environment} {c : Construction N}
    (h : Constructs w node runId n₀ env (.ok () c)) (hpasses : Passes node c.starts parameters) :
    Said node node.supplied.narrowed parameters := by
  obtain ⟨hsupported, -, himu, hcamera⟩ := h.accepted c rfl
  refine ⟨hpasses.enableCamera, hpasses.enableImu, fun henable => ?_, fun henable => ?_⟩
  · rw [hpasses.enableCamera] at henable
    obtain ⟨start, hmem, hkind⟩ := hcamera henable
    cases start with
    | imu => cases hkind
    | camera config publishCameraInfo =>
      rw [(hpasses.camera config publishCameraInfo hmem).1]
      exact ⟨hsupported.camera henable, (h.started.camera config publishCameraInfo hmem).2.2.1⟩
  · rw [hpasses.enableImu] at henable
    obtain ⟨start, hmem, hkind⟩ := himu henable
    cases start with
    | camera => cases hkind
    | imu config publishTemperature =>
      rw [(hpasses.imu config publishTemperature hmem).1]
      exact ⟨hsupported.imu henable, (h.started.imu config publishTemperature hmem).1⟩

theorem obeyed {node : SensorNode} {v : CameraValues} (hsaid : Said node v parameters)
    {s : State D P} (hs : (process D P parameters).Reachable s) :
    Obeyed v node.suppliedImu (node.declareBool "enable_camera" true)
      (node.declareBool "enable_imu" true) s.shared := by
  have hok := reachable_process hs
  have hchosen := reachable_chosen hs
  have hrequests := Camera.reachable_asked hok.camera
  have hfollows := Camera.reachable_follows hok.camera fun h => (hchosen.camera.claimed h).2
  have hclaimed : s.shared.camera.shared.startClaimed = true →
      Supported v ∧ Delivers v parameters.camera ∧
        s.shared.camera.shared.config = parameters.camera := fun h => by
    obtain ⟨henable, hconfig⟩ := hchosen.camera.claimed h
    obtain ⟨hsupported, hdelivers⟩ := hsaid.camera henable
    exact ⟨hsupported, hdelivers, hconfig⟩
  -- a request, a worker or a queue shows that the configuration is fixed
  have hasked : ∀ e ∈ s.shared.camera.shared.events, e.isRequest = true →
      Supported v ∧ Delivers v parameters.camera ∧ e.Of parameters.camera := fun e he hr => by
    obtain ⟨hsup, hdel, -⟩ := hclaimed (hrequests e he hr).1
    exact ⟨hsup, hdel, hfollows.requests e he hr⟩
  have hbusy : ∀ c, s.shared.camera.shared.workers c ≠ .none ∨
      s.shared.camera.shared.queues c ≠ none → s.shared.camera.shared.startClaimed = true :=
    fun c hc => by
      by_contra hne
      obtain ⟨-, -, -, hqueues, hworkers, -⟩ :=
        (Camera.reachable_core hok.camera).1.unclaimed (Bool.eq_false_of_not_eq_true hne)
      exact hc.elim (absurd (hworkers c)) (absurd (hqueues c))
  refine ⟨fun fps status he => ?_, fun rotation status he => ?_, fun producer cameraMask he => ?_,
    fun h => ?_, fun c hc => ?_, fun c q hq => ?_, fun config status handle he => ?_,
    fun hoff => ?_, fun hoff => ?_⟩
  · obtain ⟨hsup, hdel, hof⟩ := hasked _ he rfl
    exact ⟨hof ▸ hdel.fps, hsup.fps⟩
  · obtain ⟨hsup, hdel, hof⟩ := hasked _ he rfl
    exact ⟨hof ▸ hdel.rotation, hsup.rotateDegrees⟩
  · obtain ⟨-, hdel, rfl, rfl⟩ := hasked _ he rfl
    exact ⟨hdel.cameraMask, producer_delivers hdel, hdel.canvas, hdel.timeoutMs, hdel.maxSkewNs⟩
  · obtain ⟨-, hdel, hconfig⟩ := hclaimed h
    rw [hconfig]
    exact hdel.valid
  · obtain ⟨hsup, hdel, -⟩ := hclaimed (hbusy c (.inl hc))
    exact enabled_testBit hsup hdel.cameraMask (hfollows.threads c hc)
  · obtain ⟨hsup, hdel, -⟩ := hclaimed (hbusy c (.inr (by simp [hq])))
    obtain ⟨hcapacity, hdrop, hlength, henabled, -⟩ := hfollows.queues c q hq
    refine ⟨enabled_testBit hsup hdel.cameraMask henabled, ?_, hdrop ▸ hdel.dropNewest⟩
    rw [← hdel.queueCapacity, ← hcapacity]
    exact Int.ofNat_le.mpr hlength
  · obtain ⟨henable, rfl⟩ : ImuChosen parameters config := hchosen.imu.created _ he
    obtain ⟨hsupported, hdelivers⟩ := hsaid.imu henable
    exact ⟨hdelivers.sampleRateHz, hsupported.sampleRateHz, hdelivers.fifoWatermarkSamples,
      hdelivers.readMode⟩
  · have hstart : s.shared.camera.shared.startClaimed = false := by
      by_contra hne
      have henable := (hchosen.camera.claimed (Bool.eq_true_of_not_eq_false hne)).1
      rw [hsaid.enableCamera, hoff] at henable
      cases henable
    refine ⟨hstart, fun e he => ?_⟩
    by_contra hne
    have hfirst := (hrequests e he (Bool.eq_true_of_not_eq_false hne)).1
    rw [hstart] at hfirst
    cases hfirst
  · have hstart : s.shared.imu.shared.startClaimed = false := by
      by_contra hne
      obtain ⟨config, henable, -⟩ := hchosen.imu.claimed (Bool.eq_true_of_not_eq_false hne)
      rw [hsaid.enableImu, hoff] at henable
      cases henable
    exact ⟨hstart, (Imu.reachable_owner hok.imu).1.silent hstart⟩

/-- Whatever the user writes and whatever happens later, the drivers are only ever asked for
supported settings, and for those of the user as far as they have passed the conversions. -/
theorem hardware_obeys {N : Type} {w : Surroundings N} (hros : Lawful w.ros) {n₀ : N}
    (hnew : Fresh w.ros n₀) {node : SensorNode} {runId : Option (List UInt8)} {env : Environment}
    {c : Construction N} (hconstruct : sensorNode w node runId ⟨n₀, env, []⟩ = .ok () c)
    (hpasses : Passes node c.starts parameters) {s : State D P}
    (hs : (process D P parameters).Reachable s) :
    Obeyed node.supplied.narrowed node.suppliedImu (node.declareBool "enable_camera" true)
        (node.declareBool "enable_imu" true) s.shared ∧
      (Supported node.supplied → Obeyed node.supplied node.suppliedImu
        (node.declareBool "enable_camera" true) (node.declareBool "enable_imu" true) s.shared) := by
  have hobeyed := obeyed (said (constructed hros hnew hconstruct) hpasses) hs
  exact ⟨hobeyed, fun hsupported => hsupported.narrowed_eq ▸ hobeyed⟩

end Process

/-! ### A run -/

def oneCamera : SensorNode :=
  { withFps 50 with
    integers := fun name => if name = "camera.fps" then some 50 else
      if name = "camera.camera_mask" then some 4 else none }

def fiftyHertz : Parameters where
  enableCamera := true
  enableImu := true
  camera := ⟨4, 50, 90, 1280, 1088, 100, 10000000, 4, false, false⟩
  imu := ⟨1000, 1, readModeSensorTimestampFifo, false⟩
  publishCameraInfo := true
  publishTemperature := true

def cameraDoes (as : List (Σ i : Camera.Thread Unit, Camera.Act i)) : List (Σ i, Act Unit Unit i) :=
  as.map fun a => ⟨.camera, a⟩

def fiftyHertzRun : List (Σ i, Act Unit Unit i) :=
  mainDoes 3 ++
  imuDoes (Imu.ownerDoes [.reply .done, .reply (.created Imu.statusOk (some 7)),
    .reply (.status Imu.statusOk), .reply .done, .reply (.spawned true), .reply .done,
    .reply (.status Imu.statusOk)]) ++
  mainDoes 5 ++
  cameraDoes (Camera.ownerDoes (List.replicate 7 .step ++
    [.status Camera.statusOk, .status Camera.statusOk] ++ List.replicate 5 .step))

def fiftyHertzState : State Unit Unit :=
  ((process Unit Unit fiftyHertz).toSystem.run fiftyHertzRun
    (process Unit Unit fiftyHertz).toSystem.start).get rfl

theorem hardware_obeys_fiftyHertz :
    .setFps 50 Camera.statusOk ∈ fiftyHertzState.shared.camera.shared.events ∧
      .startFrameSet ⟨1, 1280, 1088, 100, 10000000⟩ 4 ∈
        fiftyHertzState.shared.camera.shared.events ∧
      Obeyed oneCamera.supplied.narrowed oneCamera.suppliedImu true true
        fiftyHertzState.shared := by
  obtain ⟨c, hconstruct, hstarts⟩ : ∃ c, sensorNode plainSurroundings oneCamera none
      plainConstruction = .ok () c ∧ c.starts = [.imu fiftyHertz.imu true,
        .camera fiftyHertz.camera true] := ⟨_, rfl, rfl⟩
  have hpasses : Passes oneCamera c.starts fiftyHertz := by
    rw [hstarts]
    exact ⟨rfl, rfl, by simp [fiftyHertz], by simp [fiftyHertz]⟩
  have hros : Lawful plainSurroundings.ros := ParameterNode.lawful
  exact ⟨by decide, by decide,
    (hardware_obeys hros fresh_plainNode hconstruct hpasses (System.reachable_get _)).1⟩

end RoboBaton.Node
