import RoboBaton.Camera.Image
import Mathlib.Tactic.Linarith
import Mathlib.Tactic.Ring

/-! `ValidateAndLocatePlanes`: the layout of an NV12 image, inferred from its metadata and its
number of bytes. The message carries no vertical stride, so a padded layout is recognised by
the size alone. -/

namespace RoboBaton.Nv12
open Camera

def sizeMax : UInt64 := 0xFFFFFFFFFFFFFFFF

def intMax : UInt32 := 0x7FFFFFFF

/-- `Nv12Planes`; the plane pointers are offsets into the bytes of the image. -/
structure Nv12Planes where
  yData : UInt64
  uvData : UInt64
  width : Int32
  height : Int32
  sourceStride : Int32
  chromaHeight : UInt64
  deriving DecidableEq, Repr

def checkedProduct (lhs rhs : UInt64) (what : String) : Except Error UInt64 :=
  if lhs ≠ 0 ∧ rhs > sizeMax / lhs then .error (.runtimeError what) else .ok (lhs * rhs)

def dataSize (image : Image) : UInt64 := UInt64.ofNat image.data.length

def metadataOk (image : Image) : Bool :=
  image.encoding == "nv12" && image.width != 0 && image.height != 0 && image.width % 2 == 0 &&
    image.height % 2 == 0 && image.step ≥ image.width && image.width ≤ intMax &&
    image.height ≤ intMax && image.step ≤ intMax

def planesAt (image : Image) (yPlaneSpan : UInt64) : Nv12Planes where
  yData := 0
  uvData := yPlaneSpan
  width := image.width.toInt32
  height := image.height.toInt32
  sourceStride := image.step.toInt32
  chromaHeight := image.height.toUInt64 / 2

/-- The branch for images whose size is not that of the compact layout. -/
def paddedSpan (size stride height uvVisibleSize : UInt64) : Except Error UInt64 := do
  let denominator ← checkedProduct stride 3 "invalid NV12 stride"
  if size > sizeMax / 2 ∨ (size * 2) % denominator ≠ 0 then
    .error (.runtimeError "unsupported NV12 padded image layout")
  else
    let vstride := (size * 2) / denominator
    if vstride < height ∨ vstride % 2 ≠ 0 then
      .error (.runtimeError "invalid NV12 padded vstride")
    else do
      let yPlaneSpan ← checkedProduct stride vstride "invalid NV12 padded luma span"
      if yPlaneSpan > size ∨ size - yPlaneSpan < uvVisibleSize then
        .error (.runtimeError "NV12 padded image data does not cover chroma rows")
      else .ok yPlaneSpan

def validateAndLocatePlanes (image : Image) : Except Error Nv12Planes :=
  if !metadataOk image then
    .error (.runtimeError "invalid NV12 image metadata for X5 JPEG compression")
  else do
    let stride := image.step.toUInt64
    let height := image.height.toUInt64
    let chromaHeight := height / 2
    let yVisibleSize ← checkedProduct stride height "invalid NV12 luma plane dimensions"
    let uvVisibleSize ← checkedProduct stride chromaHeight "invalid NV12 chroma plane dimensions"
    if yVisibleSize > sizeMax - uvVisibleSize then
      .error (.runtimeError "invalid NV12 image byte dimensions")
    else
      let compactSize := yVisibleSize + uvVisibleSize
      if dataSize image < compactSize then
        .error (.runtimeError "NV12 image data does not cover visible rows")
      else if dataSize image ≠ compactSize then do
        let yPlaneSpan ← paddedSpan (dataSize image) stride height uvVisibleSize
        .ok (planesAt image yPlaneSpan)
      else .ok (planesAt image yVisibleSize)

/-! ### The layouts it accepts -/

theorem checkedProduct_eq_ok {lhs rhs p : UInt64} {what : String} :
    checkedProduct lhs rhs what = .ok p ↔ p.toNat = lhs.toNat * rhs.toNat := by
  have hmax : sizeMax.toNat = 2 ^ 64 - 1 := by decide
  have hp := p.toNat_lt
  have hr := rhs.toNat_lt
  unfold checkedProduct
  simp only [ne_eq, ← UInt64.toNat_inj, gt_iff_lt, UInt64.lt_iff_toNat_lt, UInt64.toNat_div, hmax,
    UInt64.toNat_zero]
  split
  · rename_i hbig
    obtain ⟨hne, hlt⟩ := hbig
    have hpos : 0 < lhs.toNat := Nat.pos_of_ne_zero hne
    rw [Nat.div_lt_iff_lt_mul hpos, Nat.mul_comm] at hlt
    simp only [reduceCtorEq, false_iff]
    omega
  · rename_i hfit
    have hlt : lhs.toNat * rhs.toNat < 2 ^ 64 := by
      rcases Nat.eq_zero_or_pos lhs.toNat with hz | hpos
      · rw [hz]
        omega
      · have hle : rhs.toNat ≤ (2 ^ 64 - 1) / lhs.toNat := by
          by_contra hgt
          exact hfit ⟨hpos.ne', by omega⟩
        have := (Nat.le_div_iff_mul_le hpos).mp hle
        rw [Nat.mul_comm] at this
        omega
    rw [Except.ok.injEq, ← UInt64.toNat_inj, UInt64.toNat_mul, Nat.mod_eq_of_lt hlt, eq_comm]

structure Metadata (image : Image) : Prop where
  encoding : image.encoding = "nv12"
  width_pos : 0 < image.width.toNat
  height_pos : 0 < image.height.toNat
  width_even : image.width.toNat % 2 = 0
  height_even : image.height.toNat % 2 = 0
  width_le : image.width.toNat ≤ image.step.toNat
  height_lt : image.height.toNat < 2 ^ 31
  step_lt : image.step.toNat < 2 ^ 31

theorem metadataOk_iff {image : Image} : metadataOk image = true ↔ Metadata image := by
  have hmax : intMax.toNat = 2 ^ 31 - 1 := by decide
  simp only [metadataOk, Bool.and_eq_true, beq_iff_eq, bne_iff_ne, decide_eq_true_eq, ne_eq,
    ← UInt32.toNat_inj, UInt32.toNat_mod, ge_iff_le, UInt32.le_iff_toNat_le, hmax]
  constructor
  · rintro ⟨⟨⟨⟨⟨⟨⟨⟨h1, h2⟩, h3⟩, h4⟩, h5⟩, h6⟩, h7⟩, h8⟩, h9⟩
    constructor <;> first | exact h1 | (simp at h2 h3 h4 h5; omega)
  · rintro ⟨h1, h2, h3, h4, h5, h6, h7, h8⟩
    refine ⟨⟨⟨⟨⟨⟨⟨⟨h1, ?_⟩, ?_⟩, ?_⟩, ?_⟩, h6⟩, ?_⟩, ?_⟩, ?_⟩ <;> (simp; omega)

/-- The vertical stride `v` explains the number of bytes. -/
structure Layout (image : Image) (v : Nat) : Prop where
  even : v % 2 = 0
  height_le : image.height.toNat ≤ v
  size : 2 * image.data.length = 3 * (image.step.toNat * v)

theorem toNat_dataSize {image : Image} (h : image.data.length < 2 ^ 63) :
    (dataSize image).toNat = image.data.length := by
  rw [dataSize, UInt64.toNat_ofNat']
  omega

theorem paddedSpan_eq_ok {size stride height uvVisibleSize span : UInt64}
    (hpos : 0 < stride.toNat) (hlt : stride.toNat < 2 ^ 31) (hsize : size.toNat < 2 ^ 63)
    (huv : 2 * uvVisibleSize.toNat = stride.toNat * height.toNat) :
    paddedSpan size stride height uvVisibleSize = .ok span ↔
      ∃ v, v % 2 = 0 ∧ height.toNat ≤ v ∧ 2 * size.toNat = 3 * (stride.toNat * v) ∧
        span.toNat = stride.toNat * v := by
  have hmax : (sizeMax / 2).toNat = 2 ^ 63 - 1 := by decide
  -- nothing wraps here: the stride is below 2 ^ 31 and the size below 2 ^ 63
  have hden : (stride * 3).toNat = 3 * stride.toNat := by
    rw [UInt64.toNat_mul, show (3 : UInt64).toNat = 3 from rfl]
    omega
  have htwice : (size * 2).toNat = 2 * size.toNat := by
    rw [UInt64.toNat_mul, show (2 : UInt64).toNat = 2 from rfl]
    omega
  have hdenominator : checkedProduct stride 3 "invalid NV12 stride" = .ok (stride * 3) := by
    rw [checkedProduct_eq_ok, hden, Nat.mul_comm]
    rfl
  have hquot : (size * 2 / (stride * 3)).toNat = 2 * size.toNat / (3 * stride.toNat) := by
    rw [UInt64.toNat_div, htwice, hden]
  simp only [paddedSpan, hdenominator, bind_eq_ok, Except.ok.injEq, exists_eq_left']
  constructor
  · intro h
    split at h
    · cases h
    · rename_i hlayout
      split at h
      · cases h
      · rename_i hvstride
        obtain ⟨yPlaneSpan, hspan, h⟩ := bind_eq_ok.mp h
        rw [checkedProduct_eq_ok] at hspan
        split at h
        · cases h
        · cases h
          simp only [not_or, ne_eq, not_not, ← UInt64.toNat_inj, UInt64.toNat_mod, htwice, hden,
            UInt64.toNat_zero] at hlayout
          simp only [not_or, ne_eq, not_not, ← UInt64.toNat_inj, UInt64.toNat_mod,
            UInt64.lt_iff_toNat_lt, hquot] at hvstride
          refine ⟨2 * size.toNat / (3 * stride.toNat), hvstride.2, by omega, ?_, hspan.trans (by rw [hquot])⟩
          rw [← Nat.mul_assoc, Nat.mul_div_cancel' (Nat.dvd_of_mod_eq_zero hlayout.2)]
  -- `v` is the quotient that the code computes
  · rintro ⟨v, heven, hheight, hsz, hspan⟩
    have hv : 2 * size.toNat / (3 * stride.toNat) = v := by
      rw [hsz, ← Nat.mul_assoc]
      exact Nat.mul_div_cancel_left v (by omega)
    have hmul : stride.toNat * height.toNat ≤ stride.toNat * v := Nat.mul_le_mul_left _ hheight
    rw [if_neg, if_neg]
    · rw [bind_eq_ok]
      refine ⟨span, ?_, if_neg ?_⟩
      · rw [checkedProduct_eq_ok, hquot, hv, hspan]
      · simp only [not_or, gt_iff_lt, UInt64.lt_iff_toNat_lt]
        have hle : span ≤ size := by
          rw [UInt64.le_iff_toNat_le]
          omega
        rw [UInt64.toNat_sub_of_le _ _ hle]
        omega
    · simp only [not_or, ne_eq, not_not, ← UInt64.toNat_inj, UInt64.toNat_mod,
        UInt64.lt_iff_toNat_lt, hquot, hv]
      exact ⟨by omega, heven⟩
    · simp only [not_or, ne_eq, not_not, ← UInt64.toNat_inj, UInt64.toNat_mod, htwice, hden,
        gt_iff_lt, UInt64.lt_iff_toNat_lt, hmax]
      refine ⟨by omega, ?_⟩
      rw [hsz, ← Nat.mul_assoc, Nat.mul_mod_right]
      rfl

theorem Layout.unique {image : Image} (hpos : 0 < image.step.toNat) {v v' : Nat}
    (h : Layout image v) (h' : Layout image v') : v = v' := by
  have he : image.step.toNat * v = image.step.toNat * v' := by
    have h1 := h.size
    have h2 := h'.size
    omega
  exact Nat.eq_of_mul_eq_mul_left hpos he

namespace Metadata
variable {image : Image} (hm : Metadata image)
include hm

theorem step_pos : 0 < image.step.toNat := hm.width_pos.trans_le hm.width_le

theorem luma_lt : image.step.toNat * image.height.toNat < 2 ^ 62 := by
  calc image.step.toNat * image.height.toNat
      ≤ 2 ^ 31 * image.height.toNat := Nat.mul_le_mul_right _ hm.step_lt.le
    _ < 2 ^ 31 * 2 ^ 31 := Nat.mul_lt_mul_of_pos_left hm.height_lt (by decide)
    _ = 2 ^ 62 := by decide

theorem luma_eq : image.step.toNat * image.height.toNat =
    2 * (image.step.toNat * (image.height.toNat / 2)) := by
  rw [Nat.mul_left_comm, Nat.mul_div_cancel' (Nat.dvd_of_mod_eq_zero hm.height_even)]

theorem toNat_luma : (image.step.toUInt64 * image.height.toUInt64).toNat =
    image.step.toNat * image.height.toNat := by
  have := hm.luma_lt
  rw [UInt64.toNat_mul, UInt32.toNat_toUInt64, UInt32.toNat_toUInt64]
  omega

omit hm in
theorem toNat_chromaHeight :
    (image.height.toUInt64 / 2).toNat = image.height.toNat / 2 := by
  rw [UInt64.toNat_div, UInt32.toNat_toUInt64]
  rfl

theorem toNat_chroma : (image.step.toUInt64 * (image.height.toUInt64 / 2)).toNat =
    image.step.toNat * (image.height.toNat / 2) := by
  have := hm.luma_lt
  have := hm.luma_eq
  rw [UInt64.toNat_mul, UInt32.toNat_toUInt64, toNat_chromaHeight]
  omega

theorem toNat_compact : (image.step.toUInt64 * image.height.toUInt64 +
    image.step.toUInt64 * (image.height.toUInt64 / 2)).toNat =
      image.step.toNat * image.height.toNat + image.step.toNat * (image.height.toNat / 2) := by
  have hlt := hm.luma_lt
  have heq := hm.luma_eq
  rw [UInt64.toNat_add, hm.toNat_luma, hm.toNat_chroma]
  omega

end Metadata

theorem validateAndLocatePlanes_of_metadata {image : Image} (hm : Metadata image) :
    validateAndLocatePlanes image =
      if dataSize image < image.step.toUInt64 * image.height.toUInt64 +
          image.step.toUInt64 * (image.height.toUInt64 / 2) then
        .error (.runtimeError "NV12 image data does not cover visible rows")
      else if dataSize image ≠ image.step.toUInt64 * image.height.toUInt64 +
          image.step.toUInt64 * (image.height.toUInt64 / 2) then do
        let yPlaneSpan ← paddedSpan (dataSize image) image.step.toUInt64 image.height.toUInt64
          (image.step.toUInt64 * (image.height.toUInt64 / 2))
        .ok (planesAt image yPlaneSpan)
      else .ok (planesAt image (image.step.toUInt64 * image.height.toUInt64)) := by
  have hy : ∀ what, checkedProduct image.step.toUInt64 image.height.toUInt64 what =
      .ok (image.step.toUInt64 * image.height.toUInt64) := fun what =>
    checkedProduct_eq_ok.mpr (by rw [hm.toNat_luma, UInt32.toNat_toUInt64, UInt32.toNat_toUInt64])
  have hc : ∀ what, checkedProduct image.step.toUInt64 (image.height.toUInt64 / 2) what =
      .ok (image.step.toUInt64 * (image.height.toUInt64 / 2)) := fun what =>
    checkedProduct_eq_ok.mpr (by
      rw [hm.toNat_chroma, UInt32.toNat_toUInt64, Metadata.toNat_chromaHeight])
  have hroom : ¬ image.step.toUInt64 * image.height.toUInt64 >
      sizeMax - image.step.toUInt64 * (image.height.toUInt64 / 2) := by
    have hmax : sizeMax.toNat = 2 ^ 64 - 1 := by decide
    have hluma := hm.toNat_luma
    have hchroma := hm.toNat_chroma
    have hlt := hm.luma_lt
    have heq := hm.luma_eq
    have hle : image.step.toUInt64 * (image.height.toUInt64 / 2) ≤ sizeMax := by
      rw [UInt64.le_iff_toNat_le]
      omega
    rw [gt_iff_lt, UInt64.lt_iff_toNat_lt, UInt64.toNat_sub_of_le _ _ hle]
    omega
  have hmeta : (!metadataOk image) = false := by rw [metadataOk_iff.mpr hm, Bool.not_true]
  unfold validateAndLocatePlanes
  rw [hmeta, if_neg Bool.false_ne_true]
  dsimp only
  rw [hy, ok_bind, hc, ok_bind, if_neg hroom]

theorem metadata_of_validateAndLocatePlanes {image : Image} {planes : Nv12Planes}
    (h : validateAndLocatePlanes image = .ok planes) :
    Metadata image ∧ ∃ span, planes = planesAt image span := by
  have hm : Metadata image := by
    rw [← metadataOk_iff]
    by_contra hmeta
    rw [validateAndLocatePlanes, Bool.eq_false_iff.mpr hmeta] at h
    cases h
  refine ⟨hm, ?_⟩
  rw [validateAndLocatePlanes_of_metadata hm] at h
  split at h
  · cases h
  · split at h
    · obtain ⟨span, -, hspan⟩ := bind_eq_ok.mp h
      exact ⟨span, (Except.ok.inj hspan).symm⟩
    · exact ⟨_, (Except.ok.inj h).symm⟩

/-- Acceptance, as one arithmetical condition on the metadata and the number of bytes. -/
theorem validateAndLocatePlanes_eq_ok {image : Image} (hlen : image.data.length < 2 ^ 63)
    {planes : Nv12Planes} : validateAndLocatePlanes image = .ok planes ↔
      Metadata image ∧ ∃ v, Layout image v ∧
        planes = planesAt image (UInt64.ofNat (image.step.toNat * v)) := by
  by_cases hmeta : metadataOk image = true
  swap
  · simp only [validateAndLocatePlanes, hmeta, ← metadataOk_iff]
    simp
  have hm := metadataOk_iff.mp hmeta
  have hpos := hm.step_pos
  have hstep := hm.step_lt
  have hsplit := hm.luma_eq
  have hbound := hm.luma_lt
  have hluma := hm.toNat_luma
  have hchroma := hm.toNat_chroma
  have hcompact := hm.toNat_compact
  have hsize := toNat_dataSize hlen
  rw [validateAndLocatePlanes_of_metadata hm]
  simp only [hm, true_and, UInt64.lt_iff_toNat_lt, hcompact, hsize]
  have hlayout : ∀ v, Layout image v → image.step.toNat * image.height.toNat ≤ image.step.toNat * v :=
    fun v hv => Nat.mul_le_mul_left _ hv.height_le
  split
  -- shorter than the visible rows, so no layout fits
  · rename_i hshort
    simp only [reduceCtorEq, false_iff, not_exists, not_and]
    intro v hv _
    have := hlayout v hv
    have := hv.size
    omega
  · split
    · rename_i hne
      rw [bind_eq_ok]
      have hspan : ∀ span, paddedSpan (dataSize image) image.step.toUInt64
          image.height.toUInt64 (image.step.toUInt64 * (image.height.toUInt64 / 2)) = .ok span ↔
            ∃ v, v % 2 = 0 ∧ image.height.toUInt64.toNat ≤ v ∧
              2 * (dataSize image).toNat = 3 * (image.step.toUInt64.toNat * v) ∧
                span.toNat = image.step.toUInt64.toNat * v := fun span => by
        apply paddedSpan_eq_ok
        · rwa [UInt32.toNat_toUInt64]
        · rwa [UInt32.toNat_toUInt64]
        · rwa [hsize]
        · rw [hchroma, UInt32.toNat_toUInt64, UInt32.toNat_toUInt64, hsplit]
      simp only [hspan, UInt32.toNat_toUInt64, hsize, Except.ok.injEq]
      constructor
      · rintro ⟨span, ⟨v, hev, hle, hsz, hsp⟩, rfl⟩
        exact ⟨v, ⟨hev, hle, hsz⟩, by rw [← hsp, UInt64.ofNat_toNat]⟩
      · rintro ⟨v, ⟨hev, hle, hsz⟩, rfl⟩
        refine ⟨_, ⟨v, hev, hle, hsz, ?_⟩, rfl⟩
        rw [UInt64.toNat_ofNat']
        omega
    · rename_i heq
      rw [ne_eq, not_not, ← UInt64.toNat_inj, hsize, hcompact] at heq
      have hown : Layout image image.height.toNat := ⟨hm.height_even, le_rfl, by omega⟩
      have hspan : UInt64.ofNat (image.step.toNat * image.height.toNat) =
          image.step.toUInt64 * image.height.toUInt64 := by
        rw [← hluma, UInt64.ofNat_toNat]
      constructor
      · rintro h
        refine ⟨image.height.toNat, hown, ?_⟩
        rw [hspan]
        exact (Except.ok.inj h).symm
      · rintro ⟨v, hv, rfl⟩
        rw [hv.unique hpos hown, hspan]

end RoboBaton.Nv12
