import Mathlib.Data.Nat.Digits.Defs
import Mathlib.Data.Nat.Digits.Lemmas
import Mathlib.Tactic.Common

/-! Texts as lists of bytes: decimal numerals, and the format strings of `printf` with the
conversions `%s`, `%u` and `%llu`. -/

namespace Format

def isDigit (b : UInt8) : Bool := 0x30 ≤ b && b ≤ 0x39

def decimal (n : ℕ) : List UInt8 :=
  if n = 0 then [0x30] else (Nat.digits 10 n).reverse.map fun d => UInt8.ofNat (0x30 + d)

def value (text : List UInt8) : ℕ := Nat.ofDigits 10 (text.reverse.map fun b => b.toNat - 0x30)

theorem toNat_digit {d : ℕ} (h : d < 10) : (UInt8.ofNat (0x30 + d)).toNat = 0x30 + d := by
  rw [UInt8.toNat_ofNat']
  omega

theorem isDigit_iff {b : UInt8} : isDigit b = true ↔ 0x30 ≤ b.toNat ∧ b.toNat ≤ 0x39 := by
  rw [isDigit, Bool.and_eq_true, decide_eq_true_eq, decide_eq_true_eq, UInt8.le_iff_toNat_le,
    UInt8.le_iff_toNat_le]
  rfl

theorem isDigit_of_mem_decimal {n : ℕ} {b : UInt8} (h : b ∈ decimal n) : isDigit b = true := by
  unfold decimal at h
  split at h
  · obtain rfl := List.mem_singleton.mp h
    rfl
  · obtain ⟨d, hd, rfl⟩ := List.mem_map.mp h
    have hlt : d < 10 := Nat.digits_lt_base (by decide) (List.mem_reverse.mp hd)
    rw [isDigit_iff, toNat_digit hlt]
    omega

theorem decimal_ne_nil (n : ℕ) : decimal n ≠ [] := by
  unfold decimal
  split
  · exact List.cons_ne_nil _ _
  · rename_i hn
    simpa using Nat.digits_ne_nil_iff_ne_zero.mpr hn

theorem value_decimal (n : ℕ) : value (decimal n) = n := by
  unfold decimal
  split
  · rename_i hn
    rw [hn]
    rfl
  · rw [value, ← List.map_reverse, List.reverse_reverse, List.map_map]
    have hdigits : (Nat.digits 10 n).map ((fun b : UInt8 => b.toNat - 0x30) ∘
        fun d => UInt8.ofNat (0x30 + d)) = (Nat.digits 10 n).map id := by
      apply List.map_congr_left
      intro d hd
      show (UInt8.ofNat (0x30 + d)).toNat - 0x30 = d
      rw [toNat_digit (Nat.digits_lt_base (by decide) hd), Nat.add_sub_cancel_left]
    rw [hdigits, List.map_id, Nat.ofDigits_digits]

theorem decimal_of_head {n : ℕ} (h : (decimal n).head? = some 0x30) : decimal n = [0x30] := by
  unfold decimal at h ⊢
  split
  · rfl
  · rename_i hn
    rw [if_neg hn, List.head?_map, List.head?_reverse] at h
    obtain ⟨d, hd, hzero⟩ := Option.map_eq_some_iff.mp h
    have hne : Nat.digits 10 n ≠ [] := Nat.digits_ne_nil_iff_ne_zero.mpr hn
    have hlast : (Nat.digits 10 n).getLast hne = d := by
      rw [List.getLast?_eq_some_getLast hne] at hd
      exact Option.some.inj hd
    have hlt : d < 10 := hlast ▸ Nat.digits_lt_base (by decide) (List.getLast_mem hne)
    have hpos : d ≠ 0 := hlast ▸ Nat.getLast_digit_ne_zero 10 hn
    have := congrArg UInt8.toNat hzero
    rw [toNat_digit hlt] at this
    exact absurd (Nat.add_left_cancel (this : 0x30 + d = 0x30 + 0)) hpos

/-! ### Format strings -/

inductive Arg
  | text (bytes : List UInt8)
  | unsigned (n : UInt32)
  | unsignedLongLong (n : UInt64)
  deriving DecidableEq, Repr

def byte (c : Char) : UInt8 := UInt8.ofNat c.toNat

def ascii (s : String) : List UInt8 := s.toList.map byte

def convert : List Char → List Arg → Option (List UInt8)
  | '%' :: 's' :: format, .text bytes :: args =>
    (convert format args).map fun rest => bytes.takeWhile (· != 0) ++ rest
  | '%' :: 'u' :: format, .unsigned n :: args =>
    (convert format args).map fun rest => decimal n.toNat ++ rest
  | '%' :: 'l' :: 'l' :: 'u' :: format, .unsignedLongLong n :: args =>
    (convert format args).map fun rest => decimal n.toNat ++ rest
  | '%' :: _, _ => none
  | c :: format, args => (convert format args).map fun rest => byte c :: rest
  | [], _ => some []

/-- What `printf` writes; undefined when a conversion has no argument of its type. A text ends
at its first NUL. -/
def printf (format : String) (args : List Arg) : Option (List UInt8) :=
  convert format.toList args

theorem printf_ofList (format : List Char) (args : List Arg) :
    printf (String.ofList format) args = convert format args := by
  rw [printf, String.toList_ofList]

end Format
