import RoboBaton.Library.Throwing
import RoboBaton.Nv12.Codec

/-! `X5Nv12JpegEncoder` on top of the media codec. The codec is any function from the calls so
far and the next call to a reply, so every sequence of result codes and buffers occurs. -/

namespace RoboBaton.Nv12
open Camera

def findEoi (data : List UInt8) : Nat → Except Error Nat
  | 0 => .error (.runtimeError "X5 JPEG output is missing EOI marker")
  | 1 => .error (.runtimeError "X5 JPEG output is missing EOI marker")
  | index + 2 => do
    if (← inBounds data[index]?) = 0xFF then do
      if (← inBounds data[index + 1]?) = 0xD9 then .ok (index + 2) else findEoi data (index + 1)
    else findEoi data (index + 1)

def findJpegEnd (data : Option (List UInt8)) (capacity : Nat) : Except Error Nat :=
  match data with
  | none => .error (.runtimeError "X5 JPEG output is missing SOI marker")
  | some bytes =>
    if capacity < 4 then .error (.runtimeError "X5 JPEG output is missing SOI marker")
    else do
      if (← inBounds bytes[0]?) ≠ 0xFF then
        .error (.runtimeError "X5 JPEG output is missing SOI marker")
      else do
        if (← inBounds bytes[1]?) ≠ 0xD8 then
          .error (.runtimeError "X5 JPEG output is missing SOI marker")
        else findEoi bytes capacity

inductive CodecId
  | jpeg
  | other (code : Int32)
  deriving DecidableEq, Repr

/-- The fields of `media_codec_context_t` that depend on the picture or tell contexts apart. -/
structure MediaCodecContext where
  encoder : Bool
  instanceIndex : Int32
  codecId : CodecId
  width : Int32
  height : Int32
  pixFmt : PixelFormat
  bitstreamBufSize : UInt32
  frameBufCount : UInt32
  bitstreamBufCount : UInt32
  qualityFactor : Int32
  restartInterval : Int32
  deriving DecidableEq, Repr

def MediaCodecContext.zero : MediaCodecContext :=
  ⟨false, 0, .other 0, 0, 0, .other 0, 0, 0, 0, 0, 0⟩

structure Encoder where
  jpegQuality : Int32
  context : MediaCodecContext
  width : Int32
  height : Int32
  initialized : Bool
  started : Bool
  deriving DecidableEq, Repr

def Encoder.fresh (jpegQuality : Int32) : Encoder := ⟨jpegQuality, .zero, 0, 0, false, false⟩

def x5Nv12JpegEncoder (jpegQuality : Int32) : Except Error Encoder :=
  if jpegQuality < 1 || jpegQuality > 100 then
    .error (.invalidArgument "JPEG quality must be between 1 and 100")
  else .ok (.fresh jpegQuality)

inductive Call
  | mcInitialize (context : MediaCodecContext)
  | mcConfigure (context : MediaCodecContext)
  | mcStart (context : MediaCodecContext)
  | mcDequeueInputBuffer
  | mcQueueInputBuffer (input : FilledInput)
  | mcDequeueOutputBuffer
  | mcQueueOutputBuffer
  | mcPause
  | mcRelease
  deriving DecidableEq, Repr

structure CallResult where
  call : Call
  status : Int32
  deriving DecidableEq, Repr

structure StreamBuffer where
  virPtr : Option (List UInt8)
  size : UInt32
  mapped : ∀ bytes, virPtr = some bytes → bytes.length = size.toNat

/-- The result code of a call and the buffers that a dequeue fills in. -/
structure Reply where
  status : Int32
  input : CodecInput
  output : StreamBuffer

abbrev Codec := List CallResult → Call → Reply

structure Session where
  encoder : Encoder
  calls : List CallResult
  deriving DecidableEq, Repr

abbrev EncoderM := EStateM Error Session

section Calls
variable (hb : Codec)

def call (c : Call) : EncoderM Reply := do
  let s ← get
  modify fun s => { s with calls := s.calls ++ [⟨c, (hb s.calls c).status⟩] }
  pure (hb s.calls c)

def checkCodec (result : Int32) (operation : String) : EncoderM Unit :=
  if result ≠ 0 then
    throw (.runtimeError
      ("X5 media codec failed to " ++ operation ++ ", status=" ++ toString result))
  else pure ()

/-- `CheckCodec(hb_mm_mc_…(…), operation)`. -/
def checkedCall (c : Call) (operation : String) : EncoderM Reply := do
  let reply ← call hb c
  checkCodec reply.status operation
  pure reply

def setEncoder (f : Encoder → Encoder) : EncoderM Unit :=
  modify fun s => { s with encoder := f s.encoder }

/-- The first half of `Reset`. -/
def pauseStarted : EncoderM Unit := do
  let s ← get
  if s.encoder.started then do
    let _ ← call hb .mcPause
    setEncoder fun e => { e with started := false }
  else pure ()

def releaseInitialized : EncoderM Unit := do
  let s ← get
  if s.encoder.initialized then do
    let _ ← call hb .mcRelease
    setEncoder fun e => { e with initialized := false }
  else pure ()

def reset : EncoderM Unit := do
  pauseStarted hb
  releaseInitialized hb
  setEncoder fun e => { e with context := .zero, width := 0, height := 0 }

def bitstreamSize (width height : Int32) : UInt64 :=
  let pixels := UInt64.ofInt width.toInt * UInt64.ofInt height.toInt
  (pixels * 3 / 2 + 4095) &&& ~~~4095

def contextFor (jpegQuality width height : Int32) : MediaCodecContext where
  encoder := true
  instanceIndex := -1
  codecId := .jpeg
  width := width
  height := height
  pixFmt := .nv12
  bitstreamBufSize := (bitstreamSize width height).toUInt32
  frameBufCount := 3
  bitstreamBufCount := 3
  qualityFactor := jpegQuality
  restartInterval := width / 16

def openContext (width height : Int32) : EncoderM Unit := do
  reset hb
  if bitstreamSize width height = 0 ∨ bitstreamSize width height > 0xFFFFFFFF then
    throw (.runtimeError "invalid X5 JPEG bitstream capacity")
  else do
    let s ← get
    let context := contextFor s.encoder.jpegQuality width height
    setEncoder fun e => { e with context }
    let _ ← checkedCall hb (.mcInitialize context) "initialize JPEG encoder"
    setEncoder fun e => { e with initialized := true }
    let _ ← checkedCall hb (.mcConfigure context) "configure JPEG encoder"
    let _ ← checkedCall hb (.mcStart context) "start JPEG encoder"
    setEncoder fun e => { e with started := true, width, height }

def ensureContext (width height : Int32) : EncoderM Unit := do
  let s ← get
  if s.encoder.started ∧ width = s.encoder.width ∧ height = s.encoder.height then pure ()
  else openContext hb width height

/-- The body of the `try` block of `Encode`. -/
def transfer (planes : Nv12Planes) (data : List UInt8) : EncoderM (List UInt8) := do
  let dequeued ← checkedCall hb .mcDequeueInputBuffer "dequeue JPEG input buffer"
  let input ← MonadExcept.ofExcept (copyIntoCodecInput planes data dequeued.input)
  let _ ← checkedCall hb (.mcQueueInputBuffer input) "queue JPEG input buffer"
  let encoded ← checkedCall hb .mcDequeueOutputBuffer "dequeue JPEG output buffer"
  let jpegSize ← MonadExcept.ofExcept
    (findJpegEnd encoded.output.virPtr encoded.output.size.toNat)
  let jpeg := (encoded.output.virPtr.getD []).take jpegSize
  let _ ← checkedCall hb .mcQueueOutputBuffer "queue JPEG output buffer"
  pure jpeg

def encode (image : Image) : EncoderM (List UInt8) := do
  let planes ← MonadExcept.ofExcept (validateAndLocatePlanes image)
  ensureContext hb planes.width planes.height
  tryCatch (transfer hb planes image.data) fun e => do
    reset hb
    throw e

/-- `Encode` calls one after the other; what each returns or throws goes to its caller. -/
def encodeAll : List Image → Session → Session
  | [], s => s
  | image :: images, s => encodeAll images (Throwing.final (encode hb image s))

def destroy (s : Session) : Session := Throwing.final (reset hb s)

end Calls

def Session.fresh (jpegQuality : Int32) : Session := ⟨.fresh jpegQuality, []⟩

end RoboBaton.Nv12
