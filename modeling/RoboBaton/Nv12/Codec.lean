import RoboBaton.Nv12.Planes

/-! `CopyIntoCodecInput`, and the way of a camera frame through the image message into the
input buffer of the codec. Four distances between rows take part: those of the frame and the
message, which agree, and those of the two planes of the codec. -/

namespace RoboBaton.Nv12
open Camera Strided

inductive BufferType
  | videoFrame
  | other (code : Int32)
  deriving DecidableEq, Repr

inductive PixelFormat
  | nv12
  | other (code : Int32)
  deriving DecidableEq, Repr

/-- A plane of a codec buffer: `compSize` bytes at `vir_ptr`, or a null pointer. -/
structure CodecPlane where
  virPtr : Option (List UInt8)
  compSize : UInt64
  mapped : ∀ bytes, virPtr = some bytes → bytes.length = compSize.toNat

/-- The fields of a dequeued `media_codec_buffer_t` that `CopyIntoCodecInput` reads or sets. -/
structure CodecInput where
  type : BufferType
  luma : CodecPlane
  chroma : CodecPlane
  stride : Int32
  vstride : Int32
  width : Int32
  height : Int32
  pixFmt : PixelFormat
  size : UInt32

/-- The codec uses `vstride` as the distance between chroma rows. -/
def uvStride (input : CodecInput) : Int32 :=
  if input.vstride > 0 then input.vstride else input.stride

def checkCodecInput (planes : Nv12Planes) (input : CodecInput) : Except Error Unit :=
  if input.luma.virPtr.isNone || input.chroma.virPtr.isNone || input.stride < planes.width then
    .error (.runtimeError "X5 JPEG input buffer has invalid layout")
  else if uvStride input < planes.width then
    .error (.runtimeError "X5 JPEG chroma buffer has invalid stride")
  else
    let yRequired := UInt64.ofInt input.stride.toInt * UInt64.ofInt planes.height.toInt
    let uvRequired := UInt64.ofInt (uvStride input).toInt * UInt64.ofInt (planes.height / 2).toInt
    if input.luma.compSize < yRequired || input.chroma.compSize < uvRequired then
      .error (.runtimeError "X5 JPEG input buffer capacity is too small")
    else .ok ()

def lumaRows (planes : Nv12Planes) (input : CodecInput) : Rows where
  width := planes.width.toInt.toNat
  dstStride := input.stride.toInt.toNat
  srcOffset := planes.yData.toNat
  srcStride := planes.sourceStride.toInt.toNat

def chromaRows (planes : Nv12Planes) (input : CodecInput) : Rows where
  width := planes.width.toInt.toNat
  dstStride := (uvStride input).toInt.toNat
  srcOffset := planes.uvData.toNat
  srcStride := planes.sourceStride.toInt.toNat

def compactSize (planes : Nv12Planes) : UInt64 :=
  UInt64.ofInt planes.width.toInt * UInt64.ofInt planes.height.toInt * 3 / 2

structure FilledInput where
  luma : List UInt8
  chroma : List UInt8
  type : BufferType
  width : Int32
  height : Int32
  pixFmt : PixelFormat
  size : UInt32
  deriving DecidableEq, Repr

def filled (planes : Nv12Planes) (luma chroma : List UInt8) : FilledInput where
  luma := luma
  chroma := chroma
  type := .videoFrame
  width := planes.width
  height := planes.height
  pixFmt := .nv12
  size := (compactSize planes).toUInt32

def copyIntoCodecInput (planes : Nv12Planes) (data : List UInt8) (input : CodecInput) :
    Except Error FilledInput := do
  checkCodecInput planes input
  let luma ← inBounds (copyRows (lumaRows planes input) data 0 planes.height.toInt.toNat
    (input.luma.virPtr.getD []))
  let chroma ← inBounds (copyRows (chromaRows planes input) data 0 planes.chromaHeight.toNat
    (input.chroma.virPtr.getD []))
  .ok (filled planes luma chroma)

/-! ### The checks -/

theorem toInt_toInt32 {x : UInt32} (h : x.toNat < 2 ^ 31) : x.toInt32.toInt = x.toNat := by
  rw [← Int32.toInt_toBitVec, UInt32.toBitVec_toInt32, BitVec.toInt_eq_toNat_of_lt]
  · rfl
  · rw [UInt32.toNat_toBitVec]
    omega

theorem toNat_ofInt {n : Int} (h0 : 0 ≤ n) (hn : n < 2 ^ 64) :
    (UInt64.ofInt n).toNat = n.toNat := by
  rw [UInt64.ofInt, UInt64.toNat_ofNat']
  omega

theorem toNat_ofInt_mul {m n : Int} (hm : 0 ≤ m) (hn : 0 ≤ n) (hm' : m < 2 ^ 31)
    (hn' : n < 2 ^ 31) : (UInt64.ofInt m * UInt64.ofInt n).toNat = m.toNat * n.toNat := by
  have hlt : m.toNat * n.toNat < 2 ^ 31 * 2 ^ 31 :=
    Nat.mul_lt_mul_of_le_of_lt (by omega) (by omega) (by decide)
  rw [UInt64.toNat_mul, toNat_ofInt hm (by omega), toNat_ofInt hn (by omega)]
  omega

structure Roomy (planes : Nv12Planes) (input : CodecInput) (luma chroma : List UInt8) : Prop where
  luma_ptr : input.luma.virPtr = some luma
  chroma_ptr : input.chroma.virPtr = some chroma
  width_le : planes.width.toInt ≤ input.stride.toInt
  width_le_uv : planes.width.toInt ≤ (uvStride input).toInt
  luma_room : planes.height.toInt.toNat * input.stride.toInt.toNat ≤ luma.length
  chroma_room :
    planes.height.toInt.toNat / 2 * (uvStride input).toInt.toNat ≤ chroma.length

theorem toInt_half {x : Int32} (h : 0 ≤ x.toInt) : (x / 2).toInt = x.toInt / 2 := by
  have hlt := x.toInt_lt
  rw [Int32.toInt_div, show (2 : Int32).toInt = 2 from rfl, Int.tdiv_eq_ediv_of_nonneg h]
  rw [Int.bmod_eq_of_le] <;> omega

theorem roomy_of_check {planes : Nv12Planes} {input : CodecInput}
    (hwidth : 0 ≤ planes.width.toInt) (hheight : 0 ≤ planes.height.toInt)
    (h : checkCodecInput planes input = .ok ()) :
    ∃ luma chroma, Roomy planes input luma chroma := by
  unfold checkCodecInput at h
  split at h
  · cases h
  · rename_i hptr
    split at h
    · cases h
    · rename_i huv
      dsimp only at h
      split at h
      · cases h
      · rename_i hroom
        simp only [Bool.or_eq_true, Option.isNone_iff_eq_none, decide_eq_true_eq, not_or,
          Int32.lt_iff_toInt_lt, not_lt] at hptr huv
        obtain ⟨⟨hluma, hchroma⟩, hstride⟩ := hptr
        obtain ⟨luma, hluma⟩ := Option.ne_none_iff_exists'.mp hluma
        obtain ⟨chroma, hchroma⟩ := Option.ne_none_iff_exists'.mp hchroma
        have h1 := input.stride.toInt_lt
        have h2 := (uvStride input).toInt_lt
        have h3 := planes.height.toInt_lt
        rw [Bool.or_eq_true, decide_eq_true_eq, decide_eq_true_eq, not_or,
          UInt64.lt_iff_toNat_lt, UInt64.lt_iff_toNat_lt, toNat_ofInt_mul (by omega) hheight h1 h3,
          toInt_half hheight, toNat_ofInt_mul (by omega) (by omega) h2 (by omega)] at hroom
        refine ⟨luma, chroma, hluma, hchroma, hstride, huv, ?_, ?_⟩
        · rw [input.luma.mapped luma hluma, Nat.mul_comm]
          omega
        · rw [input.chroma.mapped chroma hchroma, Nat.mul_comm]
          have : (planes.height.toInt / 2).toNat = planes.height.toInt.toNat / 2 := by omega
          rw [← this]
          omega

theorem copyIntoCodecInput_eq_ok {planes : Nv12Planes} {data : List UInt8} {input : CodecInput}
    {output : FilledInput} : copyIntoCodecInput planes data input = .ok output ↔
      checkCodecInput planes input = .ok () ∧ ∃ luma chroma,
        copyRows (lumaRows planes input) data 0 planes.height.toInt.toNat
          (input.luma.virPtr.getD []) = some luma ∧
        copyRows (chromaRows planes input) data 0 planes.chromaHeight.toNat
          (input.chroma.virPtr.getD []) = some chroma ∧ output = filled planes luma chroma := by
  simp only [copyIntoCodecInput, bind_eq_ok, inBounds_eq_ok, Except.ok.injEq]
  constructor
  · rintro ⟨⟨⟩, hcheck, luma, hluma, chroma, hchroma, rfl⟩
    exact ⟨hcheck, luma, chroma, hluma, hchroma, rfl⟩
  · rintro ⟨hcheck, luma, chroma, hluma, hchroma, rfl⟩
    exact ⟨(), hcheck, luma, hluma, chroma, hchroma, rfl⟩

/-! ### The way of a frame -/

/-- What libsc132 promises of the planes of a frame. -/
structure PlanesOk (info : FrameInfo) : Prop where
  width_even : info.width.toNat % 2 = 0
  height_even : info.height.toNat % 2 = 0
  width_ge : 2 ≤ info.width.toNat
  height_ge : 2 ≤ info.height.toNat
  width_le : info.width.toNat ≤ info.stride.toNat
  height_le : info.height.toNat ≤ info.vstride.toNat
  stride_lt : info.stride.toNat < 2 ^ 31
  vstride_lt : info.vstride.toNat < 2 ^ 31
  ySize : info.ySize.toNat = info.stride.toNat * info.vstride.toNat
  uvSize : 2 * info.uvSize.toNat = info.stride.toNat * info.vstride.toNat
  luma : ∃ y, info.yData = some y ∧ y.length = info.ySize.toNat
  chroma : ∃ uv, info.uvData = some uv ∧ uv.length = info.uvSize.toNat

structure Carries (info : FrameInfo) (y uv : List UInt8) (image : Image) : Prop where
  metadata : Metadata image
  width : image.width = info.width
  height : image.height = info.height
  step : image.step = info.stride
  luma : info.yData = some y
  chroma : info.uvData = some uv
  luma_length : y.length = info.stride.toNat * info.vstride.toNat
  chroma_length : 2 * uv.length = info.stride.toNat * info.vstride.toNat
  data : image.data = y ++ uv

theorem PlanesOk.span_lt {info : FrameInfo} (hok : PlanesOk info) :
    info.stride.toNat * info.vstride.toNat < 2 ^ 62 := by
  have hlt : info.stride.toNat * info.vstride.toNat < 2 ^ 31 * 2 ^ 31 :=
    Nat.mul_lt_mul_of_le_of_lt hok.stride_lt.le hok.vstride_lt (by decide)
  omega

def frameRows (info : FrameInfo) (dstStride : Int32) (srcOffset : Nat) : Rows where
  width := info.width.toNat
  dstStride := dstStride.toInt.toNat
  srcOffset := srcOffset
  srcStride := info.stride.toNat

section Path
variable {config : ImageConfig} {snapshot : Timestamp.Snapshot} {job : RetainedFrameJob}
  {image : Image} {y uv : List UInt8}

theorem exists_carries (hok : PlanesOk job.info) (hencoding : config.imageEncoding = "nv12")
    (hbuild : buildImage config snapshot job = .ok image) :
    ∃ y uv, Carries job.info y uv image := by
  obtain ⟨y, hy, hylen⟩ := hok.luma
  obtain ⟨uv, huv, huvlen⟩ := hok.chroma
  obtain ⟨henc, hwidth, hheight, hstep, hdata⟩ := buildImage_eq_ok hbuild
  have hw := hok.width_ge
  have hh := hok.height_ge
  refine ⟨y, uv, ?_, hwidth, hheight, hstep, hy, huv, ?_, ?_, ?_⟩
  · refine ⟨henc.trans hencoding, ?_, ?_, ?_, ?_, ?_, ?_, ?_⟩
    · rw [hwidth]
      omega
    · rw [hheight]
      omega
    · rw [hwidth]
      exact hok.width_even
    · rw [hheight]
      exact hok.height_even
    · rw [hwidth, hstep]
      exact hok.width_le
    · rw [hheight]
      exact hok.height_le.trans_lt hok.vstride_lt
    · rw [hstep]
      exact hok.stride_lt
  · rw [hylen, hok.ySize]
  · rw [huvlen, hok.uvSize]
  · rw [hdata, hy, huv, Option.getD_some, Option.getD_some, ← hylen, ← huvlen,
      List.take_length, List.take_length]

variable (hok : PlanesOk job.info) (hc : Carries job.info y uv image)
include hok hc

/-- The encoder infers the vertical stride of the frame. -/
theorem Carries.layout_iff (v : Nat) :
    Layout image v ↔ v = job.info.vstride.toNat ∧ job.info.vstride.toNat % 2 = 0 := by
  have hlen : 2 * image.data.length = 3 * (image.step.toNat * job.info.vstride.toNat) := by
    have h1 := hc.luma_length
    have h2 := hc.chroma_length
    rw [hc.data, List.length_append, hc.step]
    omega
  have hpos : 0 < image.step.toNat := hc.metadata.width_pos.trans_le hc.metadata.width_le
  constructor
  · intro hv
    have he : image.step.toNat * v = image.step.toNat * job.info.vstride.toNat := by
      have := hv.size
      omega
    obtain rfl := Nat.eq_of_mul_eq_mul_left hpos he
    exact ⟨rfl, hv.even⟩
  · rintro ⟨rfl, heven⟩
    refine ⟨heven, ?_, hlen⟩
    rw [hc.height]
    exact hok.height_le

theorem Carries.located_iff (planes : Nv12Planes) : validateAndLocatePlanes image = .ok planes ↔
    job.info.vstride.toNat % 2 = 0 ∧ planes = planesAt image (UInt64.ofNat y.length) := by
  have hsmall : image.data.length < 2 ^ 63 := by
    have h1 := hc.luma_length
    have h2 := hc.chroma_length
    have h3 := hok.span_lt
    rw [hc.data, List.length_append]
    omega
  rw [validateAndLocatePlanes_eq_ok hsmall, hc.luma_length, ← hc.step]
  constructor
  · rintro ⟨-, v, hv, rfl⟩
    obtain ⟨rfl, heven⟩ := (hc.layout_iff hok v).mp hv
    exact ⟨heven, rfl⟩
  · rintro ⟨heven, rfl⟩
    exact ⟨hc.metadata, _, (hc.layout_iff hok _).mpr ⟨rfl, heven⟩, rfl⟩

theorem Carries.toInt_width (span : UInt64) :
    (planesAt image span).width.toInt = job.info.width.toNat := by
  have := hok.width_le
  have := hok.stride_lt
  rw [← hc.width]
  apply toInt_toInt32
  rw [hc.width]
  omega

theorem Carries.toInt_height (span : UInt64) :
    (planesAt image span).height.toInt = job.info.height.toNat := by
  rw [← hc.height]
  apply toInt_toInt32
  rw [hc.height]
  exact hok.height_le.trans_lt hok.vstride_lt

theorem Carries.toInt_sourceStride (span : UInt64) :
    (planesAt image span).sourceStride.toInt = job.info.stride.toNat := by
  rw [← hc.step]
  apply toInt_toInt32
  rw [hc.step]
  exact hok.stride_lt

theorem Carries.lumaRows_eq (input : CodecInput) (span : UInt64) :
    lumaRows (planesAt image span) input = frameRows job.info input.stride 0 := by
  simp only [lumaRows, frameRows, hc.toInt_width hok, hc.toInt_sourceStride hok, Int.toNat_natCast]
  rfl

theorem Carries.chromaRows_eq (input : CodecInput) :
    chromaRows (planesAt image (UInt64.ofNat y.length)) input =
      frameRows job.info (uvStride input) y.length := by
  have hspan := hok.span_lt
  have hylen := hc.luma_length
  have hoffset : (UInt64.ofNat y.length).toNat = y.length := by
    rw [UInt64.toNat_ofNat']
    omega
  simp only [chromaRows, frameRows, hc.toInt_width hok, hc.toInt_sourceStride hok,
    Int.toNat_natCast]
  congr 1

variable {input : CodecInput} {span : UInt64} {luma chroma : List UInt8}
  (hroomy : Roomy (planesAt image span) input luma chroma)
include hroomy

theorem Carries.luma_received : ∃ after,
    copyRows (frameRows job.info input.stride 0) image.data 0 job.info.height.toNat luma =
      some after ∧
    Received (frameRows job.info input.stride 0) job.info.height.toNat y image.data luma after := by
  have hwidth := hroomy.width_le
  have hroom := hroomy.luma_room
  rw [hc.toInt_width hok] at hwidth
  rw [hc.toInt_height hok, Int.toNat_natCast] at hroom
  have hrows : job.info.height.toNat * job.info.stride.toNat ≤ y.length := by
    rw [hc.luma_length, Nat.mul_comm job.info.stride.toNat]
    exact Nat.mul_le_mul_right _ hok.height_le
  apply exists_received
  · show job.info.width.toNat ≤ input.stride.toInt.toNat
    omega
  · exact hok.width_le
  · exact hroom
  · rw [hc.data, List.length_append]
    show 0 + job.info.height.toNat * job.info.stride.toNat ≤ _
    omega
  · intro i hi
    show image.data[0 + i]? = y[i]?
    rw [hc.data, Nat.zero_add]
    exact List.getElem?_append_left (hi.trans_le hrows)

theorem Carries.chroma_received : ∃ after,
    copyRows (frameRows job.info (uvStride input) y.length) image.data 0
      (job.info.height.toNat / 2) chroma = some after ∧
    Received (frameRows job.info (uvStride input) y.length) (job.info.height.toNat / 2) uv
      image.data chroma after := by
  have hwidth := hroomy.width_le_uv
  have hroom := hroomy.chroma_room
  rw [hc.toInt_width hok] at hwidth
  rw [hc.toInt_height hok, Int.toNat_natCast] at hroom
  have hrows : job.info.height.toNat / 2 * job.info.stride.toNat ≤ uv.length := by
    have huvlen := hc.chroma_length
    have htwice : 2 * (job.info.height.toNat / 2) ≤ job.info.vstride.toNat :=
      (Nat.mul_div_le _ 2).trans hok.height_le
    have hmul := Nat.mul_le_mul_right job.info.stride.toNat htwice
    rw [Nat.mul_assoc, Nat.mul_comm job.info.vstride.toNat] at hmul
    omega
  apply exists_received
  · show job.info.width.toNat ≤ (uvStride input).toInt.toNat
    omega
  · exact hok.width_le
  · exact hroom
  · rw [hc.data, List.length_append]
    exact Nat.add_le_add_left hrows _
  · intro i _
    show image.data[y.length + i]? = uv[i]?
    rw [hc.data, List.getElem?_append_right (Nat.le_add_right _ _), Nat.add_sub_cancel_left]

end Path

/-- From the planes of a frame through the image to the planes of the codec. -/
structure CodecPath (info : FrameInfo) (image : Image) : Prop where
  accepted : (∃ planes, validateAndLocatePlanes image = .ok planes) ↔ info.vstride.toNat % 2 = 0
  received : ∀ planes input, validateAndLocatePlanes image = .ok planes →
    checkCodecInput planes input = .ok () →
    ∃ y uv luma chroma filled, info.yData = some y ∧ info.uvData = some uv ∧
      input.luma.virPtr = some luma ∧ input.chroma.virPtr = some chroma ∧
      copyIntoCodecInput planes image.data input = .ok filled ∧
      Received (frameRows info input.stride 0) info.height.toNat y image.data luma filled.luma ∧
      Received (frameRows info (uvStride input) y.length) (info.height.toNat / 2) uv image.data
        chroma filled.chroma

theorem frame_to_codec {config : ImageConfig} {snapshot : Timestamp.Snapshot}
    {job : RetainedFrameJob} {image : Image} (hok : PlanesOk job.info)
    (hencoding : config.imageEncoding = "nv12")
    (hbuild : buildImage config snapshot job = .ok image) : CodecPath job.info image := by
  obtain ⟨y, uv, hc⟩ := exists_carries hok hencoding hbuild
  constructor
  case accepted =>
    simp only [hc.located_iff hok]
    exact ⟨fun ⟨_, heven, _⟩ => heven, fun heven => ⟨_, heven, rfl⟩⟩
  case received =>
    intro planes input hplanes hcheck
    obtain ⟨-, rfl⟩ := (hc.located_iff hok planes).mp hplanes
    have hwidth := hc.toInt_width hok (UInt64.ofNat y.length)
    have hheight := hc.toInt_height hok (UInt64.ofNat y.length)
    obtain ⟨luma, chroma, hroomy⟩ :=
      roomy_of_check (by rw [hwidth]; omega) (by rw [hheight]; omega) hcheck
    obtain ⟨lumaAfter, hcopyLuma, hluma⟩ := hc.luma_received hok hroomy
    obtain ⟨chromaAfter, hcopyChroma, hchroma⟩ := hc.chroma_received hok hroomy
    have hhalf : (planesAt image (UInt64.ofNat y.length)).chromaHeight.toNat =
        job.info.height.toNat / 2 := by
      show (image.height.toUInt64 / 2).toNat = _
      rw [UInt64.toNat_div, UInt32.toNat_toUInt64, hc.height]
      rfl
    refine ⟨y, uv, luma, chroma, filled (planesAt image (UInt64.ofNat y.length)) lumaAfter
      chromaAfter, hc.luma, hc.chroma, hroomy.luma_ptr, hroomy.chroma_ptr, ?_, hluma, hchroma⟩
    rw [copyIntoCodecInput_eq_ok]
    refine ⟨hcheck, lumaAfter, chromaAfter, ?_, ?_, rfl⟩
    · rw [hc.lumaRows_eq hok, hheight, Int.toNat_natCast, hroomy.luma_ptr]
      exact hcopyLuma
    · rw [hc.chromaRows_eq hok, hhalf, hroomy.chroma_ptr]
      exact hcopyChroma

def paddedInfo : FrameInfo where
  structSize := frameInfoSize
  cameraId := 0
  sequence := 1
  timestampNs := 5
  yData := some [1, 2, 0, 0, 3, 4, 0, 0, 9, 9, 9, 9, 9, 9, 9, 9]
  uvData := some [5, 6, 0, 0, 8, 8, 8, 8]
  ySize := 16
  uvSize := 8
  width := 2
  height := 2
  stride := 4
  vstride := 4

def paddedImage : Image where
  stamp := ⟨0, 5⟩
  frameId := cameraFrameId "sc132_" 0
  height := 2
  width := 2
  encoding := "nv12"
  isBigendian := false
  step := 4
  data := [1, 2, 0, 0, 3, 4, 0, 0, 9, 9, 9, 9, 9, 9, 9, 9, 5, 6, 0, 0, 8, 8, 8, 8]

theorem paddedInfo_ok : PlanesOk paddedInfo := by
  constructor <;> decide

def paddedConfig : ImageConfig where
  triggerMode := "none"
  imageEncoding := "nv12"
  frameIdPrefix := "sc132_"
  imagePublishers := fun _ => true

theorem padded_built :
    buildImage paddedConfig ⟨0, 0, 0⟩ ⟨some 0, paddedInfo⟩ = .ok paddedImage := rfl

theorem frame_to_codec_padded : CodecPath paddedInfo paddedImage :=
  frame_to_codec paddedInfo_ok (rfl : paddedConfig.imageEncoding = "nv12") padded_built

end RoboBaton.Nv12
