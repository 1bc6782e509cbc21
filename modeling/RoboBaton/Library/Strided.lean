import Mathlib.Algebra.Order.Ring.Nat
import Mathlib.Data.List.Basic
import Mathlib.Tactic.Common

/-! Copies between byte buffers, bounds-checked: a copy that would read or write outside its
buffers has no result. A block of rows is copied one row at a time, with its own distance
between rows on each side. -/

namespace Strided
variable {β : Type*}

def memcpy (dst : List β) (dstOffset : Nat) (src : List β) (srcOffset n : Nat) :
    Option (List β) :=
  if dstOffset + n ≤ dst.length ∧ srcOffset + n ≤ src.length then
    some (dst.take dstOffset ++ ((src.drop srcOffset).take n ++ dst.drop (dstOffset + n)))
  else none

structure Rows where
  width : Nat
  dstStride : Nat
  srcOffset : Nat
  srcStride : Nat

def copyRows (rows : Rows) (src : List β) : (row count : Nat) → List β → Option (List β)
  | _, 0, dst => some dst
  | row, count + 1, dst =>
    (memcpy dst (row * rows.dstStride) src (rows.srcOffset + row * rows.srcStride) rows.width).bind
      (copyRows rows src (row + 1) count)

section Memcpy
variable {dst src : List β} {dstOffset srcOffset n : Nat}

theorem exists_memcpy (hdst : dstOffset + n ≤ dst.length) (hsrc : srcOffset + n ≤ src.length) :
    ∃ dst', memcpy dst dstOffset src srcOffset n = some dst' ∧ dst'.length = dst.length := by
  refine ⟨_, if_pos ⟨hdst, hsrc⟩, ?_⟩
  simp only [List.length_append, List.length_take, List.length_drop]
  omega

variable {dst' : List β} (h : memcpy dst dstOffset src srcOffset n = some dst')
include h

theorem getElem?_memcpy_inside {i : Nat} (hi : i < n) :
    dst'[dstOffset + i]? = src[srcOffset + i]? := by
  rw [memcpy, Option.ite_none_right_eq_some] at h
  obtain ⟨⟨hdst, hsrc⟩, he⟩ := h
  rw [← Option.some.inj he, List.getElem?_append_right (by rw [List.length_take]; omega)]
  rw [List.length_take, Nat.min_eq_left (by omega), Nat.add_sub_cancel_left]
  rw [List.getElem?_append_left (by rw [List.length_take, List.length_drop]; omega)]
  rw [List.getElem?_take_of_lt hi, List.getElem?_drop]

theorem getElem?_memcpy_outside {i : Nat} (hi : i < dstOffset ∨ dstOffset + n ≤ i) :
    dst'[i]? = dst[i]? := by
  rw [memcpy, Option.ite_none_right_eq_some] at h
  obtain ⟨⟨hdst, hsrc⟩, he⟩ := h
  rw [← Option.some.inj he]
  rcases hi with hi | hi
  · rw [List.getElem?_append_left (by rw [List.length_take]; omega), List.getElem?_take_of_lt hi]
  · have hmid : (List.take n (List.drop srcOffset src)).length = n := by
      rw [List.length_take, List.length_drop]
      omega
    rw [List.getElem?_append_right (by rw [List.length_take]; omega), List.length_take,
      Nat.min_eq_left (by omega), List.getElem?_append_right (by omega), hmid, List.getElem?_drop]
    congr 1
    omega

end Memcpy

def Rows.dstIndex (rows : Rows) (row column : Nat) : Nat := row * rows.dstStride + column

def Rows.srcIndex (rows : Rows) (row column : Nat) : Nat :=
  rows.srcOffset + row * rows.srcStride + column

theorem Rows.dstIndex_lt (rows : Rows) {r r' c : Nat} (c' : Nat) (hr : r < r')
    (hc : c < rows.dstStride) : rows.dstIndex r c < rows.dstIndex r' c' := by
  have hmul : (r + 1) * rows.dstStride ≤ r' * rows.dstStride := Nat.mul_le_mul_right _ hr
  rw [Nat.add_mul, Nat.one_mul] at hmul
  unfold Rows.dstIndex
  omega

structure Copied (rows : Rows) (src : List β) (first last : Nat) (dst dst' : List β) : Prop where
  length : dst'.length = dst.length
  inside : ∀ r c, first ≤ r → r < last → c < rows.width →
    dst'[rows.dstIndex r c]? = src[rows.srcIndex r c]?
  outside : ∀ i, (∀ r c, first ≤ r → r < last → c < rows.width → i ≠ rows.dstIndex r c) →
    dst'[i]? = dst[i]?

theorem copyRows_spec (rows : Rows) (src : List β) (hwidth : rows.width ≤ rows.dstStride)
    (row count : Nat) (dst : List β) (hdst : (row + count) * rows.dstStride ≤ dst.length)
    (hsrc : ∀ r, row ≤ r → r < row + count → rows.srcIndex r rows.width ≤ src.length) :
    ∃ dst', copyRows rows src row count dst = some dst' ∧
      Copied rows src row (row + count) dst dst' := by
  induction count generalizing row dst with
  | zero =>
    refine ⟨dst, rfl, rfl, ?_, fun _ _ => rfl⟩
    intro r c hr hlt
    omega
  | succ count ih =>
    have hlast : (row + 1) * rows.dstStride ≤ (row + (count + 1)) * rows.dstStride :=
      Nat.mul_le_mul_right _ (by omega)
    rw [Nat.add_mul, Nat.one_mul] at hlast
    have hfit : row * rows.dstStride + rows.width ≤ dst.length := by omega
    have hread : rows.srcOffset + row * rows.srcStride + rows.width ≤ src.length :=
      hsrc row le_rfl (by omega)
    obtain ⟨mid, hmid, hlen⟩ := exists_memcpy hfit hread
    have hrest : row + 1 + count = row + (count + 1) := by omega
    obtain ⟨dst', hdst', hcopied⟩ := ih (row + 1) mid (by rw [hrest, hlen]; exact hdst)
      fun r hr hlt => hsrc r (by omega) (by omega)
    rw [hrest] at hcopied
    refine ⟨dst', ?_, hcopied.length.trans hlen, ?_, ?_⟩
    · rw [copyRows, hmid]
      exact hdst'
    · intro r c hr hlt hc
      rcases Nat.eq_or_lt_of_le hr with rfl | hr
      · rw [hcopied.outside]
        · exact getElem?_memcpy_inside hmid hc
        · intro r' c' hr' _ _
          exact (rows.dstIndex_lt c' hr' (hc.trans_le hwidth)).ne
      · exact hcopied.inside r c hr hlt hc
    · intro i hi
      rw [hcopied.outside i fun r c hr hlt hc => hi r c (by omega) hlt hc]
      apply getElem?_memcpy_outside hmid
      by_contra hin
      apply hi row (i - row * rows.dstStride) le_rfl (by omega) (by omega)
      unfold Rows.dstIndex
      omega

theorem index_lt {r count c stride : Nat} (hr : r < count) (hc : c < stride) :
    r * stride + c < count * stride := by
  have hmul : (r + 1) * stride ≤ count * stride := Nat.mul_le_mul_right _ hr
  rw [Nat.add_mul, Nat.one_mul] at hmul
  omega

structure Received (rows : Rows) (count : Nat) (plane src before after : List β) : Prop where
  visible : ∀ r c, r < count → c < rows.width →
    after[r * rows.dstStride + c]? = plane[r * rows.srcStride + c]?
  rest : ∀ i, (∀ r c, r < count → c < rows.width → i ≠ r * rows.dstStride + c) →
    after[i]? = before[i]?
  read : ∀ r c, r < count → c < rows.width →
    rows.srcOffset + (r * rows.srcStride + c) < src.length
  written : ∀ r c, r < count → c < rows.width → r * rows.dstStride + c < before.length

theorem exists_received (rows : Rows) {count : Nat} {plane src before : List β}
    (hdst : rows.width ≤ rows.dstStride) (hsrc : rows.width ≤ rows.srcStride)
    (hroom : count * rows.dstStride ≤ before.length)
    (hread : rows.srcOffset + count * rows.srcStride ≤ src.length)
    (hplane : ∀ i, i < count * rows.srcStride → src[rows.srcOffset + i]? = plane[i]?) :
    ∃ after, copyRows rows src 0 count before = some after ∧
      Received rows count plane src before after := by
  have hrow : ∀ r, r < count → rows.srcIndex r rows.width ≤ src.length := by
    intro r hr
    have hmul : (r + 1) * rows.srcStride ≤ count * rows.srcStride := Nat.mul_le_mul_right _ hr
    rw [Nat.add_mul, Nat.one_mul] at hmul
    unfold Rows.srcIndex
    omega
  obtain ⟨after, hafter, hcopied⟩ := copyRows_spec rows src hdst 0 count before
    (by rwa [Nat.zero_add]) fun r _ hr => hrow r (by omega)
  rw [Nat.zero_add] at hcopied
  refine ⟨after, hafter, ?_, ?_, ?_, ?_⟩
  · intro r c hr hc
    rw [← hplane _ (index_lt hr (hc.trans_le hsrc)), ← Nat.add_assoc]
    exact hcopied.inside r c (Nat.zero_le r) hr hc
  · exact fun i hi => hcopied.outside i fun r c _ hr hc => hi r c hr hc
  · intro r c hr hc
    have := index_lt hr (hc.trans_le hsrc)
    omega
  · exact fun r c hr hc => (index_lt hr (hc.trans_le hdst)).trans_le hroom

end Strided
