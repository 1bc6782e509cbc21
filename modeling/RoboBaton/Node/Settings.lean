import RoboBaton.Node.Acceptance
import RoboBaton.Node.RateLines
import RoboBaton.Node.Main

/-! From the parameters of the node to what the two cores are started with: the diagnostics and
the IMU parameters, the options of libsc132, and the environment that it reads. -/

namespace RoboBaton.Node
open Timestamp

/-- The members that the constructor sets first. The run id, which no later check reads, stays
in the settings. -/
def SensorNode.loadRates (node : SensorNode) (runId : Option (List UInt8)) :
    Except Error SensorNode := do
  let settings ← node.loadRateSettings runId
  .ok { node with
    rateMetricsEnabled := settings.rateMetricsEnabled
    rateLogPeriodMs := settings.rateLogPeriodMs }

/-! ### The IMU parameters -/

/-- `ImuPublisher::Config`, without the pointer to the timestamp mapper. -/
structure ImuConfig where
  sampleRateHz : UInt32
  fifoWatermarkSamples : UInt32
  frameId : String
  publishTemperature : Bool
  rateMetricsEnabled : Bool
  rateLogPeriodMs : UInt32
  rateRunId : String
  deriving DecidableEq, Repr

def requireSensorTimestampFifoReadMode (value : String) : Except Error Unit :=
  if value = "sensor_timestamp_fifo" then .ok ()
  else .error (.invalidArgument "imu.read_mode only supports sensor_timestamp_fifo")

def loadImuConfig (node : SensorNode) : Except Error ImuConfig := do
  let sampleRateHz ← node.declareUint32 "imu.sample_rate_hz" 1000
  if sampleRateHz ∉ [25, 50, 100, 200, 500, 1000, 2000] then
    .error (.invalidArgument
      "imu.sample_rate_hz only supports 25, 50, 100, 200, 500, 1000, or 2000")
  else do
    requireSensorTimestampFifoReadMode (node.declareString "imu.read_mode" "sensor_timestamp_fifo")
    let fifoWatermarkSamples ← node.declareUint32 "imu.fifo_watermark_samples" 1
    if fifoWatermarkSamples ≠ 1 then
      .error (.invalidArgument "imu.fifo_watermark_samples only supports 1")
    else
      .ok {
        sampleRateHz, fifoWatermarkSamples
        frameId := node.declareString "imu.frame_id" "robobaton_imu_link"
        publishTemperature := node.declareBool "imu.publish_temperature" true
        rateMetricsEnabled := node.rateMetricsEnabled
        rateLogPeriodMs := node.rateLogPeriodMs
        rateRunId := node.rateRunId }

def imuPublisherChecks (config : ImuConfig) : Except Error Unit :=
  if config.rateMetricsEnabled = true ∧ config.rateLogPeriodMs = 0 then
    .error (.invalidArgument "invalid IMU publisher configuration")
  else .ok ()

/-- `ICM42688_READ_MODE_SENSOR_TIMESTAMP_FIFO`. -/
def readModeSensorTimestampFifo : UInt32 := 0

def imuCoreConfig (config : ImuConfig) : Imu.CoreConfig where
  sampleRateHz := config.sampleRateHz
  fifoWatermarkSamples := config.fifoWatermarkSamples
  readMode := readModeSensorTimestampFifo
  rateMetricsEnabled := config.rateMetricsEnabled

/-! ### The options of libsc132 -/

def kMaxChannels : ℕ := 4
def kSensorInputWidth : Int32 := 1088
def kSensorInputHeight : Int32 := 1280
def kMountRotateDegrees : Int32 := 90

def cameraMaskPopCount (cameraMask : UInt32) : ℕ :=
  (List.range kMaxChannels).countP fun cameraId =>
    (cameraMask &&& (1 <<< UInt32.ofNat cameraId)) != 0

def internalRotateDegrees (options : Options) : Int32 :=
  (options.rotateDegrees + kMountRotateDegrees) % 360

def sc132OutputWidth (options : Options) : UInt32 :=
  let rotation := internalRotateDegrees options
  if rotation = 90 ∨ rotation = 270 then kSensorInputHeight.toUInt32
  else kSensorInputWidth.toUInt32

def sc132OutputHeight (options : Options) : UInt32 :=
  let rotation := internalRotateDegrees options
  if rotation = 90 ∨ rotation = 270 then kSensorInputWidth.toUInt32
  else kSensorInputHeight.toUInt32

/-- What `CameraPublisher::Impl::Start` passes to the core. -/
def cameraCoreConfig (config : Config) : Camera.CameraCoreConfig where
  cameraMask := config.options.cameraMask
  fps := config.options.fps.toUInt32
  rotation := (internalRotateDegrees config.options).toUInt32
  width := sc132OutputWidth config.options
  height := sc132OutputHeight config.options
  timeoutMs := config.options.frameSetTimeoutMs
  maxSkewNs := config.options.frameSetMaxSkewNs
  queueCapacity := config.queueCapacity.toNat
  dropNewest := config.queuePolicy = .kDropNewest
  rateMetricsEnabled := config.rateMetricsEnabled

/-! ### The environment of the process -/

abbrev Environment := String → Option String

/-- `setenv` with overwriting, which fails for want of memory only. -/
def setenv (refused : String → Bool) (env : Environment) (name value : String) :
    Option Environment :=
  if refused name then none else some (Function.update env name (some value))

def kSc132SensorProfileEnv : String := "SC132_SENSOR_PROFILE"
def kSc132TriggerModeEnv : String := "SC132_TRIGGER_MODE"
def kSc132Single30FpsProfile : String := "sc132gs_linear_1088x1280_raw10_30fps_1lane"
def kSc132Single60FpsProfile : String := "sc132gs_linear_1088x1280_raw10_60fps_1lane"

section Environment
variable (refused : String → Bool) (env : Environment)

def configureSc132TriggerMode (options : Options) : Except Error Environment :=
  match setenv refused env kSc132TriggerModeEnv options.triggerMode with
  | none => .error (.runtimeError "set SC132_TRIGGER_MODE failed")
  | some env => .ok env

def configureSc132SensorProfile (options : Options) : Except Error Environment :=
  -- a profile that is set but empty counts as none
  if (env kSc132SensorProfileEnv).getD "" ≠ "" then .ok env
  else if cameraMaskPopCount options.cameraMask ≠ 1 then .ok env
  else
    let profile := if options.fps = 30 then kSc132Single30FpsProfile else kSc132Single60FpsProfile
    match setenv refused env kSc132SensorProfileEnv profile with
    | none => .error (.runtimeError "set SC132_SENSOR_PROFILE failed")
    | some env => .ok env

end Environment

/-! ### What is supported, over the integers -/

structure RateValues where
  enabled : Bool
  periodMs : Int
  runId : List UInt8
  deriving DecidableEq

structure SupportedRates (v : RateValues) : Prop where
  period : 0 ≤ v.periodMs ∧ v.periodMs < 2 ^ 32
  positive : v.enabled = true → v.periodMs ≠ 0
  safe : Safe v.runId

structure ImuValues where
  sampleRateHz : Int
  readMode : String
  fifoWatermarkSamples : Int
  deriving DecidableEq

structure SupportedImu (v : ImuValues) : Prop where
  sampleRateHz : v.sampleRateHz ∈ [25, 50, 100, 200, 500, 1000, 2000]
  readMode : v.readMode = "sensor_timestamp_fifo"
  fifoWatermarkSamples : v.fifoWatermarkSamples = 1

namespace SensorNode
variable (node : SensorNode)

def suppliedRates (runId : Option (List UInt8)) : RateValues where
  enabled := node.declareBool "diagnostics.rate_metrics_enabled" false
  periodMs := (node.integer "diagnostics.rate_log_period_ms" 1000).toInt
  runId := runId.getD []

def suppliedImu : ImuValues where
  sampleRateHz := (node.integer "imu.sample_rate_hz" 1000).toInt
  readMode := node.declareString "imu.read_mode" "sensor_timestamp_fifo"
  fifoWatermarkSamples := (node.integer "imu.fifo_watermark_samples" 1).toInt

end SensorNode

/-- The parameters of a publisher that is not enabled are not even declared. -/
structure SupportedNode (node : SensorNode) (runId : Option (List UInt8)) : Prop where
  rates : SupportedRates (node.suppliedRates runId)
  imu : node.declareBool "enable_imu" true = true → SupportedImu node.suppliedImu
  camera : node.declareBool "enable_camera" true = true → Supported node.supplied.narrowed

/-! ### Each step of the constructor -/

section Steps
variable {node : SensorNode}

theorem exists_declareUint32 {name : String} {d : UInt32} :
    (∃ v, node.declareUint32 name d = .ok v) ↔
      0 ≤ (node.integer name d.toUInt64.toInt64).toInt ∧
        (node.integer name d.toUInt64.toInt64).toInt < 2 ^ 32 := by
  simp only [declareUint32_eq_ok]
  generalize (node.integer name d.toUInt64.toInt64).toInt = x
  constructor
  · rintro ⟨v, hv⟩
    have hlt := v.toNat_lt
    omega
  · rintro ⟨h0, h1⟩
    have hlt : x.toNat < UInt32.size := by
      show x.toNat < 2 ^ 32
      omega
    refine ⟨UInt32.ofNat x.toNat, ?_⟩
    rw [UInt32.toNat_ofNat_of_lt' hlt]
    omega

theorem toNat_eq_zero {x : UInt32} : x = 0 ↔ (x.toNat : Int) = 0 := by
  rw [← UInt32.toNat_inj]
  norm_cast

theorem loadRates_eq_ok {runId : Option (List UInt8)} {n : SensorNode} :
    node.loadRates runId = .ok n ↔
      SupportedRates (node.suppliedRates runId) ∧
        (n.rateLogPeriodMs.toNat : Int) = (node.suppliedRates runId).periodMs ∧
        n = { node with
          rateMetricsEnabled := (node.suppliedRates runId).enabled
          rateLogPeriodMs := n.rateLogPeriodMs } := by
  simp only [SensorNode.loadRates, SensorNode.loadRateSettings, SensorNode.loadRateLogPeriodMs,
    bind_eq_ok, declareUint32_eq_ok, loadRateRunId_eq, Except.ok.injEq]
  constructor
  · rintro ⟨settings, ⟨period, ⟨p, hp, hpositive⟩, id, hid, rfl⟩, rfl⟩
    have hlt := p.toNat_lt
    split at hpositive
    · cases hpositive
    · rename_i hzero
      cases hpositive
      split at hid
      · rename_i hsafe
        refine ⟨⟨?_, fun henabled => ?_, hsafe⟩, hp, rfl⟩
        · simp only [SensorNode.suppliedRates]
          rw [show (1000 : Int64) = (1000 : UInt32).toUInt64.toInt64 from rfl, ← hp]
          omega
        · intro hperiod
          apply hzero
          exact ⟨henabled, toNat_eq_zero.mpr (hp.trans hperiod)⟩
      · cases hid
  · rintro ⟨⟨hrange, hpositive, hsafe⟩, hp, hn⟩
    refine ⟨⟨_, n.rateLogPeriodMs, _⟩, ⟨_, ⟨_, hp, ?_⟩, _, if_pos hsafe, rfl⟩, hn.symm⟩
    rw [if_neg]
    rintro ⟨henabled, hzero⟩
    exact hpositive henabled (hp.symm.trans (toNat_eq_zero.mp hzero))

theorem loadImuConfig_eq_ok {config : ImuConfig} : loadImuConfig node = .ok config ↔
    SupportedImu node.suppliedImu ∧
      (config.sampleRateHz.toNat : Int) = node.suppliedImu.sampleRateHz ∧
      config = {
        sampleRateHz := config.sampleRateHz
        fifoWatermarkSamples := 1
        frameId := node.declareString "imu.frame_id" "robobaton_imu_link"
        publishTemperature := node.declareBool "imu.publish_temperature" true
        rateMetricsEnabled := node.rateMetricsEnabled
        rateLogPeriodMs := node.rateLogPeriodMs
        rateRunId := node.rateRunId } := by
  have hrate : ∀ x : UInt32, x ∈ [25, 50, 100, 200, 500, 1000, 2000] ↔
      (x.toNat : Int) ∈ [25, 50, 100, 200, 500, 1000, 2000] := fun x => by
    simp only [List.mem_cons, List.not_mem_nil, or_false, ← UInt32.toNat_inj]
    norm_cast
  simp only [loadImuConfig, requireSensorTimestampFifoReadMode, bind_eq_ok, declareUint32_eq_ok]
  constructor
  · rintro ⟨rate, hrate', h⟩
    split at h
    · cases h
    · rename_i hsupported
      rw [not_not, hrate, hrate'] at hsupported
      obtain ⟨⟨⟩, hmode, h⟩ := bind_eq_ok.mp h
      obtain ⟨watermark, hwatermark, h⟩ := bind_eq_ok.mp h
      split at hmode
      · rename_i hfifo
        split at h
        · cases h
        · rename_i hone
          obtain rfl : watermark = 1 := not_not.mp hone
          cases h
          exact ⟨⟨hsupported, hfifo, (declareUint32_eq_ok.mp hwatermark).symm⟩, hrate', rfl⟩
      · cases hmode
  · rintro ⟨⟨hsupported, hfifo, hwatermark⟩, hrate', hconfig⟩
    refine ⟨config.sampleRateHz, hrate', ?_⟩
    have hmem : ¬ config.sampleRateHz ∉ [25, 50, 100, 200, 500, 1000, 2000] := by
      rw [not_not, hrate, hrate']
      exact hsupported
    rw [if_neg hmem]
    refine bind_eq_ok.mpr ⟨(), if_pos hfifo, bind_eq_ok.mpr ⟨1, ?_, ?_⟩⟩
    · exact declareUint32_eq_ok.mpr hwatermark.symm
    · rw [if_neg (by decide), ← hconfig]

theorem imuPublisherChecks_eq_ok {config : ImuConfig} : imuPublisherChecks config = .ok () ↔
    (config.rateMetricsEnabled = true → config.rateLogPeriodMs ≠ 0) := by
  rw [imuPublisherChecks]
  split
  · rename_i hzero
    exact ⟨fun h => (by cases h), fun h => absurd hzero.2 (h hzero.1)⟩
  · rename_i hzero
    exact ⟨fun _ henabled hperiod => hzero ⟨henabled, hperiod⟩, fun _ => rfl⟩

theorem acceptCamera_parts {config : Config} : acceptCamera node = .ok config ↔
    loadCameraConfig node = .ok config ∧ publisherChecks config = .ok () ∧
      validateCameraOptions config.options = .ok () := by
  simp only [acceptCamera, bind_eq_ok, Except.ok.injEq]
  constructor
  · rintro ⟨config, hload, ⟨⟩, hchecks, ⟨⟩, hvalid, rfl⟩
    exact ⟨hload, hchecks, hvalid⟩
  · rintro ⟨hload, hchecks, hvalid⟩
    exact ⟨config, hload, (), hchecks, (), hvalid, rfl⟩

theorem acceptCamera_iff {config : Config}
    (hrates : node.rateMetricsEnabled = true → node.rateLogPeriodMs ≠ 0) :
    acceptCamera node = .ok config ↔
      Supported node.supplied.narrowed ∧ Carries node.supplied.narrowed config ∧
        config.rateMetricsEnabled = node.rateMetricsEnabled ∧
        config.rateLogPeriodMs = node.rateLogPeriodMs ∧ config.rateRunId = node.rateRunId := by
  -- the same node with the metrics off differs in one flag of the configuration
  have hoff : acceptCamera { node with rateMetricsEnabled := false } =
      .ok { config with rateMetricsEnabled := false } ↔ _ := acceptCamera_eq_ok rfl
  have hcarries : Carries node.supplied.narrowed config ↔
      Carries node.supplied.narrowed { config with rateMetricsEnabled := false } :=
    ⟨fun h => { h with }, fun h => { h with }⟩
  rw [acceptCamera_parts, loadCameraConfig_eq_ok, publisherChecks_eq_ok] at hoff ⊢
  constructor
  · rintro ⟨⟨h, hpos, hquality, henabled, hperiod, hid⟩, ⟨hcap, hencoding, -, -⟩, hvalid⟩
    have hparts := hoff.mp ⟨⟨hcarries.mp h, hpos, hquality, rfl, hperiod, hid⟩,
      ⟨hcap, hencoding, hquality, by simp⟩, hvalid⟩
    exact ⟨hparts.1, h, henabled, hperiod, hid⟩
  · rintro ⟨hsupported, h, henabled, hperiod, hid⟩
    obtain ⟨⟨-, hpos, hquality, -⟩, ⟨hcap, hencoding, -, -⟩, hvalid⟩ :=
      hoff.mpr ⟨hsupported, hcarries.mp h, rfl, hperiod, hid⟩
    refine ⟨⟨h, hpos, hquality, henabled, hperiod, hid⟩, ⟨hcap, hencoding, hquality, ?_⟩, hvalid⟩
    rw [henabled, hperiod]
    exact hrates

end Steps

/-! ### The configuration of the camera core -/

/-- The core is started with the values of the user: the picture is turned by the mounting angle,
and the canvas of libsc132 is that of the turned picture. -/
structure Delivers (v : CameraValues) (config : Camera.CameraCoreConfig) : Prop where
  cameraMask : (config.cameraMask.toNat : Int) = v.cameraMask
  cameraCount : config.enabledCameraCount = if v.cameraMask = 15 then 4 else 1
  fps : (config.fps.toNat : Int) = v.fps
  rotation : (config.rotation.toNat : Int) = (v.rotateDegrees + 90) % 360
  canvas : (config.width, config.height) =
    if v.rotateDegrees % 180 = 0 then (1280, 1088) else (1088, 1280)
  timeoutMs : (config.timeoutMs.toNat : Int) = v.frameSetTimeoutMs
  maxSkewNs : (config.maxSkewNs.toNat : Int) = v.frameSetMaxSkewNs
  queueCapacity : (config.queueCapacity : Int) = v.queueCapacity
  dropNewest : config.dropNewest = true ↔ v.queuePolicy = "drop_newest"
  valid : config.valid = true

section Core
variable {v : CameraValues} {config : Config}

theorem supported_mask (hs : Supported v) (hc : Carries v config) :
    config.options.cameraMask ∈ [1, 2, 4, 8, 15] := by
  have h := hs.cameraMask
  rw [← hc.cameraMask] at h
  simp only [List.mem_cons, List.not_mem_nil, or_false, ← UInt32.toNat_inj] at h ⊢
  norm_cast at h

theorem supported_rotate (hs : Supported v) (hc : Carries v config) :
    config.options.rotateDegrees ∈ [0, 90, 180, 270] := by
  have h := hs.rotateDegrees
  rw [← hc.rotateDegrees] at h
  simp only [List.mem_cons, List.not_mem_nil, or_false, ← Int32.toInt_inj] at h ⊢
  exact h

theorem supported_fps (hs : Supported v) (hc : Carries v config) :
    config.options.fps ∈ [25, 30, 40, 50, 60] := by
  have h := hs.fps
  rw [← hc.fps] at h
  simp only [List.mem_cons, List.not_mem_nil, or_false, ← Int32.toInt_inj] at h ⊢
  exact h

theorem popCount_eq (config : Config) :
    cameraMaskPopCount config.options.cameraMask = (cameraCoreConfig config).enabledCameraCount := by
  have hids : List.range kMaxChannels = (List.finRange Camera.kMaxCameras).map Fin.val := by decide
  rw [cameraMaskPopCount, hids, List.countP_map, List.countP_eq_length_filter,
    Camera.CameraCoreConfig.enabledCameraCount]
  refine congrArg List.length (List.filter_congr fun c _ => ?_)
  simp only [Function.comp_apply, Camera.CameraCoreConfig.cameraEnabled, cameraCoreConfig]

theorem rotation_delivers (hs : Supported v) (hc : Carries v config) :
    ((cameraCoreConfig config).rotation.toNat : Int) = (v.rotateDegrees + 90) % 360 ∧
      ((cameraCoreConfig config).width, (cameraCoreConfig config).height) =
        if v.rotateDegrees % 180 = 0 then (1280, 1088) else (1088, 1280) := by
  have hrotate := supported_rotate hs hc
  have hvalue := hc.rotateDegrees
  have hinternal : internalRotateDegrees config.options =
      (config.options.rotateDegrees + 90) % 360 := rfl
  change ((internalRotateDegrees config.options).toUInt32.toNat : Int) = _ ∧
    (sc132OutputWidth config.options, sc132OutputHeight config.options) = _
  unfold sc132OutputWidth sc132OutputHeight
  rw [hinternal, ← hvalue]
  generalize config.options.rotateDegrees = rotate at hrotate
  simp only [List.mem_cons, List.not_mem_nil, or_false] at hrotate
  rcases hrotate with rfl | rfl | rfl | rfl <;> decide

theorem fps_delivers (hs : Supported v) (hc : Carries v config) :
    ((cameraCoreConfig config).fps.toNat : Int) = v.fps := by
  have hfps := supported_fps hs hc
  have hvalue := hc.fps
  simp only [cameraCoreConfig]
  generalize config.options.fps = fps at hfps hvalue
  simp only [List.mem_cons, List.not_mem_nil, or_false] at hfps
  rw [← hvalue]
  rcases hfps with rfl | rfl | rfl | rfl | rfl <;> decide

theorem count_delivers (hs : Supported v) (hc : Carries v config) :
    (cameraCoreConfig config).enabledCameraCount = if v.cameraMask = 15 then 4 else 1 := by
  have hmask := supported_mask hs hc
  have hvalue := hc.cameraMask
  rw [← popCount_eq]
  generalize config.options.cameraMask = mask at hmask hvalue
  simp only [List.mem_cons, List.not_mem_nil, or_false] at hmask
  rw [← hvalue]
  rcases hmask with rfl | rfl | rfl | rfl | rfl <;> decide

/-- The core never rejects what the node has accepted. -/
theorem valid_delivers (hs : Supported v) (hc : Carries v config) :
    (cameraCoreConfig config).valid = true := by
  have hcanvas := (rotation_delivers hs hc).2
  have hmask := supported_mask hs hc
  have hskew := hs.frameSetMaxSkewNs
  have htimeout := hs.frameSetTimeoutMs
  have hcapacity := hs.queueCapacity
  rw [← hc.frameSetMaxSkewNs] at hskew
  rw [← hc.frameSetTimeoutMs] at htimeout
  rw [← hc.queueCapacity] at hcapacity
  have hsize : 0 < (cameraCoreConfig config).width ∧ 0 < (cameraCoreConfig config).height := by
    split at hcanvas <;> rw [(Prod.mk.inj hcanvas).1, (Prod.mk.inj hcanvas).2] <;> decide
  have hbits : (config.options.cameraMask != 0) = true ∧
      (config.options.cameraMask &&& ~~~15 == 0) = true := by
    generalize config.options.cameraMask = mask at hmask
    simp only [List.mem_cons, List.not_mem_nil, or_false] at hmask
    rcases hmask with rfl | rfl | rfl | rfl | rfl <;> decide
  simp only [Camera.CameraCoreConfig.valid, Bool.and_eq_true, decide_eq_true_eq]
  refine ⟨⟨⟨⟨⟨hbits, ?_⟩, hsize.1⟩, hsize.2⟩, ?_⟩, ?_⟩
  · show config.queueCapacity.toNat > 0
    omega
  · show 0 < config.options.frameSetTimeoutMs
    rw [UInt32.lt_iff_toNat_lt, UInt32.toNat_zero]
    omega
  · show 0 < config.options.frameSetMaxSkewNs
    rw [UInt64.lt_iff_toNat_lt, UInt64.toNat_zero]
    omega

theorem delivers (hs : Supported v) (hc : Carries v config) :
    Delivers v (cameraCoreConfig config) where
  cameraMask := hc.cameraMask
  cameraCount := count_delivers hs hc
  fps := fps_delivers hs hc
  rotation := (rotation_delivers hs hc).1
  canvas := (rotation_delivers hs hc).2
  timeoutMs := hc.frameSetTimeoutMs
  maxSkewNs := hc.frameSetMaxSkewNs
  queueCapacity := hc.queueCapacity
  dropNewest := by
    have hpolicy := hc.queuePolicy
    simp only [cameraCoreConfig, decide_eq_true_eq]
    rw [← hpolicy]
    cases config.queuePolicy <;> simp [QueuePolicy.text]
  valid := valid_delivers hs hc

end Core

/-! ### The environment that libsc132 finds -/

/-- The mode is the one of the parameters, whatever the shell says; the profile is the one of the
shell, and only for a single camera without one it is chosen by the frame rate. -/
structure Prepared (v : CameraValues) (env env' : Environment) : Prop where
  triggerMode : env' kSc132TriggerModeEnv = some v.triggerMode
  profile : env' kSc132SensorProfileEnv =
    if (env kSc132SensorProfileEnv).getD "" = "" ∧ v.cameraMask ≠ 15 then
      some (if v.fps = 30 then kSc132Single30FpsProfile else kSc132Single60FpsProfile)
    else env kSc132SensorProfileEnv
  others : ∀ name, name ≠ kSc132TriggerModeEnv → name ≠ kSc132SensorProfileEnv →
    env' name = env name

section Setenv
variable {refused : String → Bool} {env env' : Environment} {options : Options}

theorem setenv_eq_some {name value : String} : setenv refused env name value = some env' ↔
    refused name = false ∧ env' = Function.update env name (some value) := by
  unfold setenv
  split
  · rename_i h
    simp [h]
  · rename_i h
    simp [Bool.eq_false_of_not_eq_true h, eq_comm]

theorem triggerMode_eq_ok : configureSc132TriggerMode refused env options = .ok env' ↔
    refused kSc132TriggerModeEnv = false ∧
      env' = Function.update env kSc132TriggerModeEnv (some options.triggerMode) := by
  rw [← setenv_eq_some, configureSc132TriggerMode]
  generalize setenv refused env kSc132TriggerModeEnv options.triggerMode = r
  cases r <;> simp

def Chooses (env : Environment) (options : Options) : Prop :=
  (env kSc132SensorProfileEnv).getD "" = "" ∧ cameraMaskPopCount options.cameraMask = 1

instance : Decidable (Chooses env options) := inferInstanceAs (Decidable (_ ∧ _))

theorem sensorProfile_eq_ok : configureSc132SensorProfile refused env options = .ok env' ↔
    (Chooses env options → refused kSc132SensorProfileEnv = false) ∧
      env' = if Chooses env options then
        Function.update env kSc132SensorProfileEnv
          (some (if options.fps = 30 then kSc132Single30FpsProfile else kSc132Single60FpsProfile))
      else env := by
  unfold configureSc132SensorProfile Chooses
  by_cases hset : (env kSc132SensorProfileEnv).getD "" = ""
  · rw [if_neg (not_not.mpr hset)]
    by_cases hsingle : cameraMaskPopCount options.cameraMask = 1
    · rw [if_neg (not_not.mpr hsingle)]
      simp only [hset, hsingle, and_self, if_true, forall_const]
      rw [← setenv_eq_some]
      generalize setenv refused env kSc132SensorProfileEnv _ = r
      cases r <;> simp
    · rw [if_pos hsingle]
      simp only [hsingle, and_false, if_false, false_imp_iff, true_and, Except.ok.injEq, eq_comm]
  · rw [if_pos hset]
    simp only [hset, false_and, if_false, false_imp_iff, true_and, Except.ok.injEq, eq_comm]

variable {config : Config} {env₁ : Environment} {v : CameraValues}

theorem prepared (hs : Supported v) (hc : Carries v config)
    (htrigger : configureSc132TriggerMode refused env config.options = .ok env₁)
    (hprofile : configureSc132SensorProfile refused env₁ config.options = .ok env') :
    Prepared v env env' := by
  obtain ⟨-, rfl⟩ := triggerMode_eq_ok.mp htrigger
  obtain ⟨-, rfl⟩ := sensorProfile_eq_ok.mp hprofile
  have hne : kSc132SensorProfileEnv ≠ kSc132TriggerModeEnv := by decide
  have hchooses : Chooses (Function.update env kSc132TriggerModeEnv
      (some config.options.triggerMode)) config.options ↔
      (env kSc132SensorProfileEnv).getD "" = "" ∧ v.cameraMask ≠ 15 := by
    have hcount := count_delivers hs hc
    rw [Chooses, Function.update_of_ne hne, popCount_eq, hcount]
    split <;> simp_all
  have hthirty : config.options.fps = 30 ↔ v.fps = 30 := by
    rw [← Int32.toInt_inj, hc.fps]
    rfl
  refine ⟨?_, ?_, fun name htrigger hprofile => ?_⟩
  · rw [← hc.triggerMode]
    split
    · rw [Function.update_of_ne hne.symm, Function.update_self]
    · rw [Function.update_self]
  · simp only [hchooses, hthirty]
    split
    · rw [Function.update_self]
    · rw [Function.update_of_ne hne]
  · split
    · rw [Function.update_of_ne hprofile, Function.update_of_ne htrigger]
    · rw [Function.update_of_ne htrigger]

end Setenv

end RoboBaton.Node
