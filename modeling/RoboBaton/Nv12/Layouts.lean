import RoboBaton.Nv12.Planes
import Mathlib.Order.Interval.Set.Disjoint

/-! The NV12 layouts as a whole: which images are accepted, where their rows are, and how the
other images are rejected. -/

namespace RoboBaton.Nv12
open Camera

def overflowTexts : List String :=
  ["invalid NV12 luma plane dimensions", "invalid NV12 chroma plane dimensions",
    "invalid NV12 image byte dimensions", "invalid NV12 stride", "invalid NV12 padded luma span"]

def rejectionTexts : List String :=
  ["invalid NV12 image metadata for X5 JPEG compression",
    "NV12 image data does not cover visible rows", "unsupported NV12 padded image layout",
    "invalid NV12 padded vstride"]

/-- The vertical stride that the padded branch computes. -/
def vstride (image : Image) : Nat := 2 * image.data.length / (3 * image.step.toNat)

def lumaRow (image : Image) (r : Nat) : Set Nat :=
  Set.Ico (r * image.step.toNat) (r * image.step.toNat + image.width.toNat)

def chromaRow (image : Image) (v r : Nat) : Set Nat :=
  Set.Ico (image.step.toNat * v + r * image.step.toNat)
    (image.step.toNat * v + r * image.step.toNat + image.width.toNat)

/-- The visible rows of both planes are bytes of the image, and no byte is in both. -/
structure RowsFit (image : Image) (v : Nat) : Prop where
  luma : ∀ r < image.height.toNat, lumaRow image r ⊆ Set.Iio image.data.length
  chroma : ∀ r < image.height.toNat / 2, chromaRow image v r ⊆ Set.Iio image.data.length
  disjoint : ∀ r < image.height.toNat, ∀ r' < image.height.toNat / 2,
    Disjoint (lumaRow image r) (chromaRow image v r')

structure Exact (image : Image) : Prop where
  luma : image.step.toNat * image.height.toNat < 2 ^ 64
  chroma : image.step.toNat * (image.height.toNat / 2) < 2 ^ 64
  compact : image.step.toNat * image.height.toNat +
    image.step.toNat * (image.height.toNat / 2) < 2 ^ 64
  double : image.data.length * 2 < 2 ^ 64
  denominator : image.step.toNat * 3 < 2 ^ 64
  span : image.step.toNat * vstride image < 2 ^ 64

/-! ### Rows -/

theorem row_end_le {step width r n : Nat} (hw : width ≤ step) (hr : r < n) :
    r * step + width ≤ step * n := by
  calc r * step + width ≤ r * step + step := by omega
    _ = (r + 1) * step := by rw [Nat.succ_mul]
    _ ≤ n * step := Nat.mul_le_mul_right _ hr
    _ = step * n := Nat.mul_comm _ _

theorem Layout.rowsFit {image : Image} {v : Nat} (hm : Metadata image) (h : Layout image v) :
    RowsFit image v := by
  have hheight : image.step.toNat * image.height.toNat ≤ image.step.toNat * v :=
    Nat.mul_le_mul_left _ h.height_le
  have hsize := h.size
  have heq := hm.luma_eq
  have hend : ∀ {r n}, r < n → r * image.step.toNat + image.width.toNat ≤ image.step.toNat * n :=
    row_end_le hm.width_le
  refine ⟨fun r hr i hi => ?_, fun r hr i hi => ?_, fun r hr r' _ => ?_⟩
  · have := hend hr
    have := hi.2
    rw [Set.mem_Iio]
    omega
  · have := hend hr
    have := hi.2
    rw [Set.mem_Iio]
    omega
  · have := hend hr
    rw [lumaRow, chromaRow, Set.Ico_disjoint_Ico]
    omega

/-! ### Rejections -/

theorem paddedSpan_eq_error {size stride height uvVisibleSize : UInt64} {e : Error}
    (hpos : 0 < stride.toNat) (hlt : stride.toNat < 2 ^ 31) (hsize : size.toNat < 2 ^ 63)
    (huv : 2 * uvVisibleSize.toNat = stride.toNat * height.toNat)
    (hcover : stride.toNat * height.toNat + uvVisibleSize.toNat ≤ size.toNat)
    (h : paddedSpan size stride height uvVisibleSize = .error e) :
    e = .runtimeError "unsupported NV12 padded image layout" ∨
      e = .runtimeError "invalid NV12 padded vstride" := by
  have hden : (stride * 3).toNat = 3 * stride.toNat := by
    rw [UInt64.toNat_mul, show (3 : UInt64).toNat = 3 from rfl]
    omega
  have htwice : (size * 2).toNat = 2 * size.toNat := by
    rw [UInt64.toNat_mul, show (2 : UInt64).toNat = 2 from rfl]
    omega
  have hdenominator : checkedProduct stride 3 "invalid NV12 stride" = .ok (stride * 3) := by
    rw [checkedProduct_eq_ok, hden, Nat.mul_comm]
    rfl
  have hquot : (size * 2 / (stride * 3)).toNat = 2 * size.toNat / (3 * stride.toNat) := by
    rw [UInt64.toNat_div, htwice, hden]
  rw [paddedSpan, hdenominator, ok_bind] at h
  split at h
  · exact .inl (Except.error.inj h).symm
  · rename_i hlayout
    simp only [not_or, ne_eq, not_not, ← UInt64.toNat_inj, UInt64.toNat_mod, htwice, hden,
      UInt64.toNat_zero] at hlayout
    dsimp only at h
    split at h
    · exact .inr (Except.error.inj h).symm
    · -- the size is three halves of the luma plane, and the chroma rows fit the last third
      exfalso
      have hexact : 3 * stride.toNat * (2 * size.toNat / (3 * stride.toNat)) = 2 * size.toNat :=
        Nat.mul_div_cancel' (Nat.dvd_of_mod_eq_zero hlayout.2)
      rw [Nat.mul_assoc] at hexact
      have hproduct : (stride * (size * 2 / (stride * 3))).toNat =
          stride.toNat * (2 * size.toNat / (3 * stride.toNat)) := by
        rw [UInt64.toNat_mul, hquot]
        omega
      have hspan : checkedProduct stride (size * 2 / (stride * 3))
          "invalid NV12 padded luma span" = .ok (stride * (size * 2 / (stride * 3))) := by
        rw [checkedProduct_eq_ok, hproduct, hquot]
      have hle : stride * (size * 2 / (stride * 3)) ≤ size := by
        rw [UInt64.le_iff_toNat_le, hproduct]
        omega
      rw [hspan, ok_bind, if_neg] at h
      · cases h
      · simp only [not_or, gt_iff_lt, UInt64.lt_iff_toNat_lt]
        rw [UInt64.toNat_sub_of_le _ _ hle, hproduct]
        omega

theorem validateAndLocatePlanes_eq_error {image : Image} (hlen : image.data.length < 2 ^ 63)
    {e : Error} (h : validateAndLocatePlanes image = .error e) :
    ∃ what ∈ rejectionTexts, e = .runtimeError what := by
  by_cases hmeta : metadataOk image = true
  swap
  · rw [validateAndLocatePlanes, if_pos (by simpa using hmeta)] at h
    exact ⟨_, List.mem_cons_self, (Except.error.inj h).symm⟩
  have hm := metadataOk_iff.mp hmeta
  have hluma := hm.luma_eq
  have hsize := toNat_dataSize hlen
  rw [validateAndLocatePlanes_of_metadata hm] at h
  split at h
  · exact ⟨_, by decide, (Except.error.inj h).symm⟩
  · rename_i hcover
    rw [UInt64.lt_iff_toNat_lt, hm.toNat_compact, hsize, not_lt] at hcover
    split at h
    · cases hspan : paddedSpan (dataSize image) image.step.toUInt64 image.height.toUInt64
        (image.step.toUInt64 * (image.height.toUInt64 / 2)) with
      | ok span =>
        rw [hspan, ok_bind] at h
        cases h
      | error e' =>
        rw [hspan] at h
        cases h
        obtain rfl | rfl := paddedSpan_eq_error
          (by rw [UInt32.toNat_toUInt64]; exact hm.step_pos)
          (by rw [UInt32.toNat_toUInt64]; exact hm.step_lt) (by rwa [hsize])
          (by rw [hm.toNat_chroma, UInt32.toNat_toUInt64, UInt32.toNat_toUInt64, hluma])
          (by rw [hm.toNat_chroma, UInt32.toNat_toUInt64, UInt32.toNat_toUInt64, hsize]
              exact hcover) hspan
        · exact ⟨_, by decide, rfl⟩
        · exact ⟨_, by decide, rfl⟩
    · cases h

theorem Metadata.exact {image : Image} (hm : Metadata image)
    (hlen : image.data.length < 2 ^ 63) : Exact image := by
  have hlt := hm.luma_lt
  have heq := hm.luma_eq
  have hstep := hm.step_lt
  have hspan : 3 * image.step.toNat * vstride image ≤ 2 * image.data.length := Nat.mul_div_le _ _
  rw [Nat.mul_assoc] at hspan
  constructor <;> omega

/-! ### The layouts -/

/-- An image is accepted exactly when one even vertical stride explains its size. That stride
places the chroma plane, and nothing overflows on the way, whatever the image. -/
theorem nv12_layouts (image : Image) (hlen : image.data.length < 2 ^ 63) :
    ((∃ planes, validateAndLocatePlanes image = .ok planes) ↔
      Metadata image ∧ ∃ v, Layout image v) ∧
    (∀ planes, validateAndLocatePlanes image = .ok planes →
      ∃! v, Layout image v ∧ planes.yData.toNat = 0 ∧
        planes.uvData.toNat = image.step.toNat * v ∧ RowsFit image v) ∧
    (Metadata image → Exact image) ∧
    (∀ what ∈ overflowTexts, validateAndLocatePlanes image ≠ .error (.runtimeError what)) := by
  refine ⟨⟨?_, ?_⟩, ?_, fun hm => hm.exact hlen, ?_⟩
  · rintro ⟨planes, h⟩
    obtain ⟨hm, v, hv, -⟩ := (validateAndLocatePlanes_eq_ok hlen).mp h
    exact ⟨hm, v, hv⟩
  · rintro ⟨hm, v, hv⟩
    exact ⟨_, (validateAndLocatePlanes_eq_ok hlen).mpr ⟨hm, v, hv, rfl⟩⟩
  · intro planes h
    obtain ⟨hm, v, hv, rfl⟩ := (validateAndLocatePlanes_eq_ok hlen).mp h
    have hspan : (UInt64.ofNat (image.step.toNat * v)).toNat = image.step.toNat * v := by
      have := hv.size
      rw [UInt64.toNat_ofNat']
      omega
    exact ⟨v, ⟨hv, rfl, hspan, hv.rowsFit hm⟩, fun v' h' => h'.1.unique hm.step_pos hv⟩
  · intro what hwhat h
    obtain ⟨what', hmem, heq⟩ := validateAndLocatePlanes_eq_error hlen h
    have hdisjoint : ∀ text ∈ overflowTexts, text ∉ rejectionTexts := by decide
    exact hdisjoint what hwhat (Error.runtimeError.inj heq ▸ hmem)

def smallPadded : Image where
  stamp := ⟨0, 0⟩
  frameId := "camera0_optical_frame"
  height := 2
  width := 2
  encoding := "nv12"
  isBigendian := false
  step := 4
  data := List.replicate 24 0

theorem nv12_layouts_padded : smallPadded.data.length < 2 ^ 63 ∧
    ∃ planes, validateAndLocatePlanes smallPadded = .ok planes := by
  have hlen : smallPadded.data.length < 2 ^ 63 := by decide
  have hlayout : Layout smallPadded 4 := by constructor <;> decide
  exact ⟨hlen, (nv12_layouts smallPadded hlen).1.mpr ⟨metadataOk_iff.mp (by decide), 4, hlayout⟩⟩

end RoboBaton.Nv12
