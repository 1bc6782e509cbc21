import RoboBaton.Timestamp.Mapper

/-! The camera parameters of the node: declared one by one, converted to the types of the
configuration, and checked in three places before the camera starts. -/

namespace RoboBaton.Node

/-- The parameter overrides of the node and what the constructor has declared before the
camera parameters. -/
structure SensorNode where
  integers : String → Option Int64
  booleans : String → Option Bool
  strings : String → Option String
  rateMetricsEnabled : Bool
  rateLogPeriodMs : UInt32
  rateRunId : String

namespace SensorNode
variable (node : SensorNode)

/-- `declare_parameter<int64_t>`: the override, or else the default. -/
def integer (name : String) (defaultValue : Int64) : Int64 :=
  (node.integers name).getD defaultValue

/-- `declare_parameter<int>` gives the stored 64-bit integer, converted. -/
def declareInt (name : String) (defaultValue : Int32) : Int32 :=
  (node.integer name defaultValue.toInt64).toInt32

def declareBool (name : String) (defaultValue : Bool) : Bool :=
  (node.booleans name).getD defaultValue

def declareString (name defaultValue : String) : String :=
  (node.strings name).getD defaultValue

def declareUint64 (name : String) (defaultValue : UInt64) : Except Error UInt64 :=
  let value := node.integer name defaultValue.toInt64
  if value < 0 then .error (.invalidArgument (name ++ " must be non-negative"))
  else .ok value.toUInt64

def declareUint32 (name : String) (defaultValue : UInt32) : Except Error UInt32 :=
  let value := node.integer name defaultValue.toUInt64.toInt64
  if value < 0 ∨ value > 0xffffffff then
    .error (.invalidArgument (name ++ " must be a uint32 value"))
  else .ok value.toUInt64.toUInt32

def declareSize (name : String) (defaultValue : UInt64) : Except Error UInt64 :=
  let value := node.integer name defaultValue.toInt64
  if value ≤ 0 then .error (.invalidArgument (name ++ " must be positive"))
  else .ok value.toUInt64

end SensorNode

inductive QueuePolicy where
  | kBlock
  | kDropNewest
  deriving DecidableEq, Repr

def parseQueuePolicy (value : String) : Except Error QueuePolicy :=
  if value = "block" then .ok .kBlock
  else if value = "drop_newest" then .ok .kDropNewest
  else .error (.invalidArgument "camera.queue_policy must be block or drop_newest")

structure Options where
  cameraMask : UInt32
  fps : Int32
  rotateDegrees : Int32
  frameSetMaxSkewNs : UInt64
  frameSetTimeoutMs : UInt32
  triggerMode : String
  deriving DecidableEq, Repr

structure Config where
  options : Options
  queueCapacity : UInt64
  queuePolicy : QueuePolicy
  publishCameraInfo : Bool
  imageEncoding : String
  publishCompressedImage : Bool
  compressedJpegQuality : Int32
  frameIdPrefix : String
  rateMetricsEnabled : Bool
  rateLogPeriodMs : UInt32
  rateRunId : String
  deriving DecidableEq, Repr

def kDefaultCameraMask : UInt32 := 15
def kDefaultFps : Int32 := 30
def kDefaultRotateDegrees : Int32 := 0
def kDefaultFrameSetMaxSkewNs : UInt64 := 10000000
def kDefaultFrameSetTimeoutMs : UInt32 := 100
def kDefaultSc132TriggerMode : String := "software_gpio"

def loadCameraConfig (node : SensorNode) : Except Error Config := do
  let cameraMask ← node.declareUint32 "camera.camera_mask" kDefaultCameraMask
  let fps := node.declareInt "camera.fps" kDefaultFps
  let rotateDegrees := node.declareInt "camera.rotate_degrees" kDefaultRotateDegrees
  let frameSetMaxSkewNs ←
    node.declareUint64 "camera.frame_set_max_skew_ns" kDefaultFrameSetMaxSkewNs
  let frameSetTimeoutMs ←
    node.declareUint32 "camera.frame_set_timeout_ms" kDefaultFrameSetTimeoutMs
  let triggerMode := node.declareString "camera.trigger_mode" kDefaultSc132TriggerMode
  let queueCapacity ← node.declareSize "camera.queue_capacity" 4
  let queuePolicy ← parseQueuePolicy (node.declareString "camera.queue_policy" "block")
  let publishCameraInfo := node.declareBool "camera.publish_camera_info" true
  let imageEncoding := node.declareString "camera.image_encoding" "nv12"
  let publishCompressedImage := node.declareBool "camera.publish_compressed_image" true
  let compressedJpegQuality := node.declareInt "camera.compressed_jpeg_quality" 80
  if compressedJpegQuality < 1 ∨ compressedJpegQuality > 100 then
    .error (.invalidArgument "camera.compressed_jpeg_quality must be between 1 and 100")
  else
    .ok {
      options := { cameraMask, fps, rotateDegrees, frameSetMaxSkewNs, frameSetTimeoutMs,
                   triggerMode }
      queueCapacity, queuePolicy, publishCameraInfo, imageEncoding, publishCompressedImage,
      compressedJpegQuality
      frameIdPrefix := node.declareString "camera.frame_id_prefix" "robobaton_cam"
      rateMetricsEnabled := node.rateMetricsEnabled
      rateLogPeriodMs := node.rateLogPeriodMs
      rateRunId := node.rateRunId }

/-- The checks of the constructor `CameraPublisher::Impl`; the node is not null. -/
def publisherChecks (config : Config) : Except Error Unit :=
  if config.queueCapacity = 0 ∨ config.imageEncoding ≠ "nv12" ∨
      config.compressedJpegQuality < 1 ∨ config.compressedJpegQuality > 100 ∨
      (config.rateMetricsEnabled = true ∧ config.rateLogPeriodMs = 0) then
    .error (.invalidArgument "invalid camera publisher configuration")
  else .ok ()

def validateCameraOptions (options : Options) : Except Error Unit :=
  if options.cameraMask ∉ [0x1, 0x2, 0x4, 0x8, 0xF] then
    .error (.invalidArgument "camera.camera_mask supports only 1, 2, 4, 8, or 15")
  else if options.fps ∉ [25, 30, 40, 50, 60] then
    .error (.invalidArgument "camera.fps must be 25, 30, 40, 50, or 60")
  else if options.rotateDegrees ∉ [0, 90, 180, 270] then
    .error (.invalidArgument "camera.rotate_degrees must be 0, 90, 180, or 270")
  else if options.rotateDegrees = 180 ∧ options.fps ≠ 30 then
    .error (.invalidArgument "camera.rotate_degrees=180 is supported only at 30fps")
  else if options.frameSetTimeoutMs = 0 ∨ options.frameSetMaxSkewNs = 0 then
    .error (.invalidArgument "camera frame-set timeout and max skew must be positive")
  else if options.triggerMode ≠ "software_gpio" ∧ options.triggerMode ≠ "none" then
    .error (.invalidArgument "camera.trigger_mode must be software_gpio or none")
  else .ok ()

/-- The configuration with which the camera publisher is constructed and started. -/
def acceptCamera (node : SensorNode) : Except Error Config := do
  let config ← loadCameraConfig node
  publisherChecks config
  validateCameraOptions config.options
  .ok config

end RoboBaton.Node
