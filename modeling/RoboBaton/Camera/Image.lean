import RoboBaton.Camera.Frame
import RoboBaton.Library.Strided
import RoboBaton.Timestamp.Mapper

/-! The image message that `PublishFrame` builds from a retained frame. -/

namespace RoboBaton.Camera
open Strided

structure Image where
  stamp : Timestamp.RosStampParts
  frameId : String
  height : UInt32
  width : UInt32
  encoding : String
  isBigendian : Bool
  step : UInt32
  data : List UInt8
  deriving DecidableEq, Repr

/-- What `PublishFrame` reads of the configuration; `imagePublishers` tells which cameras
have an image publisher. -/
structure ImageConfig where
  triggerMode : String
  imageEncoding : String
  frameIdPrefix : String
  imagePublishers : Nat → Bool

def sc132TimestampsAreMonotonicRaw (config : ImageConfig) : Bool :=
  config.triggerMode == "software_gpio" || config.triggerMode == "gpio"

def cameraFrameId (framePrefix : String) (cameraId : UInt32) : String :=
  framePrefix ++ toString cameraId ++ "_optical_frame"

def headerStampFromFrame (config : ImageConfig) (snapshot : Timestamp.Snapshot)
    (info : FrameInfo) : Except Error Timestamp.RosStampParts :=
  if sc132TimestampsAreMonotonicRaw config then Timestamp.stamp snapshot info.timestampNs
  else Timestamp.toRosStampParts info.timestampNs

def inBounds {α : Type} : Option α → Except Error α
  | some a => .ok a
  | none => .error .outOfBounds

@[simp] theorem inBounds_eq_ok {α : Type} {x : Option α} {a : α} :
    inBounds x = .ok a ↔ x = some a := by
  cases x <;> simp [inBounds]

/-- `PublishFrame` up to the first publish. -/
def buildImage (config : ImageConfig) (snapshot : Timestamp.Snapshot) (job : RetainedFrameJob) :
    Except Error Image :=
  let info := job.info
  if !job.ownsFrame || info.ySize > Timestamp.uint64Max - info.uvSize then
    .error (.runtimeError "invalid SC132 frame size")
  else if info.cameraId.toNat ≥ kMaxCameras || !config.imagePublishers info.cameraId.toNat then
    .error (.runtimeError "invalid SC132 camera id")
  else do
    let stamp ← headerStampFromFrame config snapshot info
    let ySize := info.ySize.toNat
    let uvSize := info.uvSize.toNat
    let blank := List.replicate (ySize + uvSize) 0
    let luma ← inBounds (memcpy blank 0 (info.yData.getD []) 0 ySize)
    let data ← inBounds (memcpy luma ySize (info.uvData.getD []) 0 uvSize)
    .ok { stamp, frameId := cameraFrameId config.frameIdPrefix info.cameraId,
          height := info.height, width := info.width, encoding := config.imageEncoding,
          isBigendian := false, step := info.stride, data }

theorem memcpy_planes {y uv blank luma data : List UInt8} {m n : Nat}
    (hblank : blank.length = m + n) (hluma : memcpy blank 0 y 0 m = some luma)
    (hdata : memcpy luma m uv 0 n = some data) : data = y.take m ++ uv.take n := by
  rw [memcpy, Option.ite_none_right_eq_some] at hluma hdata
  obtain ⟨⟨h1, h2⟩, h3⟩ := hluma
  obtain ⟨⟨h4, h5⟩, h6⟩ := hdata
  have hlen : (y.take m).length = m := by
    rw [List.length_take]
    omega
  rw [← Option.some.inj h6, ← Option.some.inj h3]
  simp [hlen, hblank]

theorem buildImage_eq_ok {config : ImageConfig} {snapshot : Timestamp.Snapshot}
    {job : RetainedFrameJob} {image : Image} (h : buildImage config snapshot job = .ok image) :
    image.encoding = config.imageEncoding ∧ image.width = job.info.width ∧
      image.height = job.info.height ∧ image.step = job.info.stride ∧
      image.data = (job.info.yData.getD []).take job.info.ySize.toNat ++
        (job.info.uvData.getD []).take job.info.uvSize.toNat := by
  simp only [buildImage] at h
  split at h
  · cases h
  · split at h
    · cases h
    · obtain ⟨stamp, -, h⟩ := bind_eq_ok.mp h
      obtain ⟨luma, hluma, h⟩ := bind_eq_ok.mp h
      obtain ⟨data, hdata, h⟩ := bind_eq_ok.mp h
      cases h
      refine ⟨rfl, rfl, rfl, rfl, ?_⟩
      exact memcpy_planes List.length_replicate (inBounds_eq_ok.mp hluma) (inBounds_eq_ok.mp hdata)

end RoboBaton.Camera
