import Mathlib

/-! Frames of libsc132 as the callback sees them, and the jobs that own a retained frame. -/

namespace RoboBaton.Camera

/-- `SC132_FRAME_SET_MAX_CAMERAS`. -/
abbrev kMaxCameras : Nat := 4

instance : NeZero kMaxCameras := ⟨by decide⟩

/-- A non-null `sc132_frame_t*`. -/
abbrev Frame := Nat

def statusOk : Int32 := 0

/-- `sizeof(sc132_frame_info_t)`. -/
def frameInfoSize : UInt32 := 128

/-- `sc132_frame_info_t`; a plane pointer is `none` when null, else the bytes it leads to. -/
structure FrameInfo where
  structSize : UInt32
  cameraId : UInt32
  sequence : UInt64
  timestampNs : UInt64
  yData : Option (List UInt8)
  uvData : Option (List UInt8)
  ySize : UInt64
  uvSize : UInt64
  width : UInt32
  height : UInt32
  stride : UInt32
  vstride : UInt32
  deriving DecidableEq, Repr

namespace FrameInfo

def zero : FrameInfo := ⟨0, 0, 0, 0, none, none, 0, 0, 0, 0, 0, 0⟩

end FrameInfo

structure RetainedFrameJob where
  frame : Option Frame
  info : FrameInfo
  deriving DecidableEq, Repr

namespace RetainedFrameJob

def empty : RetainedFrameJob := ⟨none, .zero⟩

def ownsFrame (job : RetainedFrameJob) : Bool := job.frame.isSome

end RetainedFrameJob
end RoboBaton.Camera
