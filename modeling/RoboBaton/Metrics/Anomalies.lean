import RoboBaton.Metrics.Sequence

/-! The anomalies of a history of sequence numbers over the integers, and where the
classifiers of the two widths report something else. -/

namespace RoboBaton
open Adjacent

/-! ### The tests on integers -/

theorem toNat_truncate32 (value : UInt64) : (truncate32 value).toNat = value.toNat % 2 ^ 32 := by
  rw [truncate32, UInt64.toNat_and, show uint32Max.toNat = 2 ^ 32 - 1 by decide,
    Nat.and_two_pow_sub_one_eq_mod]

theorem toNat_expectedNext_32 (last : UInt64) :
    (expectedNext last .k32Bit).toNat = (last.toNat % 2 ^ 32 + 1) % 2 ^ 32 := by
  rw [expectedNext, if_pos rfl, toNat_truncate32, UInt64.toNat_add, toNat_truncate32,
    show (1 : UInt64).toNat = 1 from rfl]
  omega

theorem toNat_expectedNext_64 (last : UInt64) :
    (expectedNext last .k64Bit).toNat = (last.toNat + 1) % 2 ^ 64 := by
  have hmax : uint64Max.toNat = 2 ^ 64 - 1 := by decide
  unfold expectedNext
  rw [if_neg (by decide)]
  split
  · rename_i heq
    rw [heq, hmax]
    rfl
  · rw [UInt64.toNat_add]
    rfl

theorem classify_toNat (width : SequenceWidth) (last sequence : UInt64) :
    classify width last sequence =
      if sequence.toNat = last.toNat then some .duplicate
      else if sequence.toNat ≠ (expectedNext last width).toNat then
        if (expectedNext last width).toNat < sequence.toNat ∨
            (width = .k32Bit ∧ 2 ^ 31 - 1 < last.toNat ∧ sequence.toNat < 2 ^ 31 - 1) then
          some .gap
        else some .regression
      else none := by
  have hhalf : (uint32Max / 2).toNat = 2 ^ 31 - 1 := by decide
  simp only [classify, ne_eq, ← UInt64.toNat_inj, gt_iff_lt, UInt64.lt_iff_toNat_lt, hhalf]

/-! ### Anomalies over the integers -/

def IsDuplicate (x : UInt64 × UInt64) : Prop := x.2 = x.1

def IsGap (x : UInt64 × UInt64) : Prop := x.1.toNat + 1 < x.2.toNat

/-- Backward, but not the wrap from the maximum to 0. -/
def IsRegression (x : UInt64 × UInt64) : Prop := x.2 < x.1 ∧ ¬ (x.1 = uint64Max ∧ x.2 = 0)

/-- A step back from the maximum that is not the wrap. -/
def FromMax (x : UInt64 × UInt64) : Prop := x.1 = uint64Max ∧ 0 < x.2 ∧ x.2 < uint64Max

instance : DecidablePred IsDuplicate := fun _ => inferInstanceAs (Decidable (_ = _))
instance : DecidablePred IsGap := fun _ => inferInstanceAs (Decidable (_ < _))
instance : DecidablePred IsRegression := fun _ => inferInstanceAs (Decidable (_ ∧ _))
instance : DecidablePred FromMax := fun _ => inferInstanceAs (Decidable (_ ∧ _))

def duplicates (numbers : List UInt64) : Nat := (pairs numbers).countP fun x => IsDuplicate x

def gaps (numbers : List UInt64) : Nat := (pairs numbers).countP fun x => IsGap x

def regressions (numbers : List UInt64) : Nat := (pairs numbers).countP fun x => IsRegression x

/-! ### Width 64 -/

theorem classify_64 (last sequence : UInt64) :
    (classify .k64Bit last sequence = some .duplicate ↔ IsDuplicate (last, sequence)) ∧
    (classify .k64Bit last sequence = some .gap ↔
      IsGap (last, sequence) ∨ FromMax (last, sequence)) ∧
    (classify .k64Bit last sequence = some .regression ↔
      IsRegression (last, sequence) ∧ ¬ FromMax (last, sequence)) := by
  have hmax : uint64Max.toNat = 2 ^ 64 - 1 := by decide
  have hl := last.toNat_lt
  have hs := sequence.toNat_lt
  rw [classify_toNat, toNat_expectedNext_64]
  simp only [IsDuplicate, IsGap, IsRegression, FromMax, ← UInt64.toNat_inj,
    UInt64.lt_iff_toNat_lt, hmax, UInt64.toNat_zero, reduceCtorEq, false_and, or_false]
  refine ⟨?_, ?_, ?_⟩
  · split_ifs <;> simp <;> omega
  · split_ifs <;> simp <;> omega
  · split_ifs <;> simp <;> omega

theorem regressions_split (numbers : List UInt64) :
    regressions numbers =
      (pairs numbers).countP (fun x => classify .k64Bit x.1 x.2 = some .regression) +
        (pairs numbers).countP fun x => FromMax x := by
  refine countP_add fun x _ => ?_
  obtain ⟨-, -, hreg⟩ := classify_64 x.1 x.2
  have hmax : FromMax x → IsRegression x := fun h =>
    ⟨h.1 ▸ h.2.2, fun hwrap => absurd (hwrap.2 ▸ h.2.1) (UInt64.lt_irrefl _)⟩
  by_cases hx : FromMax x <;> by_cases hr : IsRegression x <;> simp_all

theorem gaps_split (numbers : List UInt64) :
    (pairs numbers).countP (fun x => classify .k64Bit x.1 x.2 = some .gap) =
      gaps numbers + (pairs numbers).countP fun x => FromMax x := by
  refine countP_add fun x _ => ?_
  obtain ⟨-, hgap, -⟩ := classify_64 x.1 x.2
  have hmax : FromMax x → ¬ IsGap x := fun h hg => by
    have := x.2.toNat_lt
    unfold IsGap at hg
    rw [h.1, show uint64Max.toNat = 2 ^ 64 - 1 by decide] at hg
    omega
  by_cases hx : FromMax x <;> by_cases hg : IsGap x <;> simp_all

def numbersOf (calls : List SourceCall) : List UInt64 := calls.map SourceCall.sequence

structure Counted (calls : List SourceCall) : Prop where
  duplicate : (Metrics.sourceCalls .k64Bit calls).sequenceDuplicateCount.load.toNat =
    duplicates (numbersOf calls)
  gap : (Metrics.sourceCalls .k64Bit calls).sequenceGapCount.load.toNat = gaps (numbersOf calls)
  regression : (Metrics.sourceCalls .k64Bit calls).sequenceRegressionCount.load.toNat =
    regressions (numbersOf calls)

/-- They do exactly when no step leaves the maximum other than to 0, and no number is too
large for a counter. -/
theorem counted_iff (calls : List SourceCall) :
    Counted calls ↔ (∀ x ∈ pairs (numbersOf calls), ¬ FromMax x) ∧
      duplicates (numbersOf calls) < 2 ^ 64 ∧ gaps (numbersOf calls) < 2 ^ 64 ∧
      regressions (numbersOf calls) < 2 ^ 64 := by
  have hcounts := Metrics.sourceCalls_counts (w := .k64Bit) (by decide) calls
  have hseen : Metrics.seen .k64Bit calls = numbersOf calls := rfl
  have hdup : (Metrics.sourceCalls .k64Bit calls).sequenceDuplicateCount.total =
      duplicates (numbersOf calls) := by
    refine (hcounts .duplicate).trans ?_
    rw [hseen, duplicates]
    exact List.countP_congr fun x _ => by simpa using (classify_64 x.1 x.2).1
  have hgap : (Metrics.sourceCalls .k64Bit calls).sequenceGapCount.total = _ :=
    (hcounts .gap).trans (gaps_split (numbersOf calls))
  have hreg : (Metrics.sourceCalls .k64Bit calls).sequenceRegressionCount.total = _ :=
    hcounts .regression
  have hsplit := regressions_split (numbersOf calls)
  rw [hseen] at hreg
  have hnone : (∀ x ∈ pairs (numbersOf calls), ¬ FromMax x) ↔
      (pairs (numbersOf calls)).countP (fun x => FromMax x) = 0 := by
    simp [List.countP_eq_zero]
  have hload : ∀ c : Counter, c.load.toNat = c.total % 2 ^ 64 := fun c => UInt64.toNat_ofNat'
  rw [hnone]
  constructor
  · rintro ⟨h1, h2, h3⟩
    rw [hload, hdup] at h1
    rw [hload, hgap] at h2
    rw [hload, hreg] at h3
    omega
  · rintro ⟨h0, h1, h2, h3⟩
    refine ⟨?_, ?_, ?_⟩
    · rw [hload, hdup]
      omega
    · rw [hload, hgap]
      omega
    · rw [hload, hreg]
      omega

theorem backward_from_max :
    ¬ Counted [⟨uint64Max, 0, 1⟩, ⟨uint64Max - 1, 0, 2⟩] := fun h =>
  absurd h.regression (by decide)

/-! ### Width 32 -/

def low (number : UInt64) : Nat := number.toNat % 2 ^ 32

/-- A history that both widths are meant to read alike. -/
structure Comparable (numbers : List UInt64) : Prop where
  below : ∀ s ∈ numbers, s.toNat ≤ 2 ^ 64 - 2
  near : ∀ x ∈ pairs numbers, x.1.toNat < x.2.toNat + 2 ^ 31 ∧ x.2.toNat < x.1.toNat + 2 ^ 31

/-- A step back that the low 32 bits show as a step forward: from the maximum, across a
multiple of 2^32, or from the upper half to the lower half. -/
def Misread (x : UInt64 × UInt64) : Prop :=
  x.2 < x.1 ∧ (low x.1 = 2 ^ 32 - 1 ∨ low x.1 < low x.2 ∨
    (2 ^ 31 ≤ low x.1 ∧ low x.2 < 2 ^ 31 - 1))

instance : DecidablePred Misread := fun _ => inferInstanceAs (Decidable (_ ∧ _))

/-- On the low 32 bits of near numbers the tests go wrong exactly at the misread steps, which
become gaps. -/
theorem classify_32 {last sequence : UInt64} (hlast : last.toNat ≤ 2 ^ 64 - 2)
    (hnear : last.toNat < sequence.toNat + 2 ^ 31 ∧ sequence.toNat < last.toNat + 2 ^ 31) :
    classify .k32Bit (truncate32 last) (truncate32 sequence) =
        if Misread (last, sequence) then some .gap else classify .k64Bit last sequence := by
  have hl := last.toNat_lt
  rw [classify_toNat, classify_toNat, toNat_expectedNext_32, toNat_expectedNext_64,
    toNat_truncate32, toNat_truncate32]
  simp only [Misread, low, UInt64.lt_iff_toNat_lt, reduceCtorEq, false_and, or_false, true_and]
  generalize last.toNat = a at *
  generalize sequence.toNat = b at *
  have ha : (a + 1) % 2 ^ 64 = a + 1 := Nat.mod_eq_of_lt (by omega)
  rw [ha, Nat.mod_mod]
  split_ifs <;> first | rfl | omega

structure Agree (calls : List SourceCall) : Prop where
  gap : (Metrics.sourceCalls .k32Bit calls).sequenceGapCount.load =
    (Metrics.sourceCalls .k64Bit calls).sequenceGapCount.load
  duplicate : (Metrics.sourceCalls .k32Bit calls).sequenceDuplicateCount.load =
    (Metrics.sourceCalls .k64Bit calls).sequenceDuplicateCount.load
  regression : (Metrics.sourceCalls .k32Bit calls).sequenceRegressionCount.load =
    (Metrics.sourceCalls .k64Bit calls).sequenceRegressionCount.load

theorem Comparable.classify {numbers : List UInt64} (h : Comparable numbers)
    {x : UInt64 × UInt64} (hx : x ∈ pairs numbers) :
    RoboBaton.classify .k32Bit (truncate32 x.1) (truncate32 x.2) =
      if Misread x then some .gap else RoboBaton.classify .k64Bit x.1 x.2 :=
  classify_32 (h.below _ (mem_of_mem_pairs hx).1) (h.near x hx)

theorem Misread.classify {x : UInt64 × UInt64} (h : Misread x) (hx : x.1.toNat ≤ 2 ^ 64 - 2) :
    RoboBaton.classify .k64Bit x.1 x.2 = some .regression := by
  have hmax : uint64Max.toNat = 2 ^ 64 - 1 := by decide
  have hne : x.1 ≠ uint64Max := fun heq => by
    rw [heq, hmax] at hx
    omega
  exact (classify_64 x.1 x.2).2.2.mpr ⟨⟨h.1, fun hwrap => hne hwrap.1⟩, fun hmax => hne hmax.1⟩

theorem Comparable.counts {numbers : List UInt64} (h : Comparable numbers) :
    (pairs (numbers.map truncate32)).countP (fun x => RoboBaton.classify .k32Bit x.1 x.2 =
        some .duplicate) =
      (pairs numbers).countP (fun x => RoboBaton.classify .k64Bit x.1 x.2 = some .duplicate) ∧
    (pairs (numbers.map truncate32)).countP (fun x => RoboBaton.classify .k32Bit x.1 x.2 =
        some .gap) =
      (pairs numbers).countP (fun x => RoboBaton.classify .k64Bit x.1 x.2 = some .gap) +
        (pairs numbers).countP (fun x => Misread x) ∧
    (pairs numbers).countP (fun x => RoboBaton.classify .k64Bit x.1 x.2 = some .regression) =
      (pairs (numbers.map truncate32)).countP (fun x => RoboBaton.classify .k32Bit x.1 x.2 =
        some .regression) + (pairs numbers).countP (fun x => Misread x) := by
  have hback := fun x hx (hm : Misread x) => hm.classify (h.below _ (mem_of_mem_pairs hx).1)
  simp only [pairs_map, List.countP_map]
  refine ⟨List.countP_congr fun x hx => ?_, countP_add fun x hx => ?_, countP_add fun x hx => ?_⟩
  · have hread := h.classify hx
    have hm := hback x hx
    by_cases hx' : Misread x <;> simp_all
  · have hread := h.classify hx
    have hm := hback x hx
    by_cases hx' : Misread x <;> simp_all
  · have hread := h.classify hx
    have hm := hback x hx
    by_cases hx' : Misread x <;> simp_all

/-- The histories of which both widths make the same are those without a misread step; a
multiple of 2^64 of them would cancel in the counters. -/
theorem agree_iff (calls : List SourceCall) (h : Comparable (numbersOf calls)) :
    Agree calls ↔ 2 ^ 64 ∣ (pairs (numbersOf calls)).countP fun x => Misread x := by
  have h64 := Metrics.sourceCalls_counts (w := .k64Bit) (by decide) calls
  have h32 := Metrics.sourceCalls_counts (w := .k32Bit) (by decide) calls
  have hseen : Metrics.seen .k32Bit calls = (numbersOf calls).map truncate32 := by
    rw [numbersOf, List.map_map]
    rfl
  rw [hseen] at h32
  obtain ⟨hdup, hgap, hreg⟩ := h.counts
  have hdup' : (Metrics.sourceCalls .k32Bit calls).sequenceDuplicateCount.total =
      (Metrics.sourceCalls .k64Bit calls).sequenceDuplicateCount.total :=
    (h32 .duplicate).trans (hdup.trans (h64 .duplicate).symm)
  have hgap' : (Metrics.sourceCalls .k32Bit calls).sequenceGapCount.total = _ :=
    (h32 .gap).trans (hgap.trans (congrArg (· + _) (h64 .gap).symm))
  have hreg' : (Metrics.sourceCalls .k64Bit calls).sequenceRegressionCount.total = _ :=
    (h64 .regression).trans (hreg.trans (congrArg (· + _) (h32 .regression).symm))
  have hload : ∀ c c' : Counter, c.load = c'.load ↔ c.total % 2 ^ 64 = c'.total % 2 ^ 64 :=
    fun c c' => by
      rw [← UInt64.toNat_inj]
      simp only [Counter.load, UInt64.toNat_ofNat']
  simp only [Anomaly.counter] at hgap' hreg'
  constructor
  · rintro ⟨hg, -, -⟩
    rw [hload] at hg
    omega
  · rintro hk
    refine ⟨(hload _ _).mpr ?_, (hload _ _).mpr (by rw [hdup']), (hload _ _).mpr ?_⟩
    · omega
    · omega

theorem backward_across_zero :
    Comparable (numbersOf [⟨4294967296, 0, 1⟩, ⟨4294967295, 0, 2⟩]) ∧
      ¬ Agree [⟨4294967296, 0, 1⟩, ⟨4294967295, 0, 2⟩] :=
  ⟨⟨by simp [numbersOf], by simp [numbersOf]⟩, fun h => absurd h.gap (by decide)⟩

theorem agree_iff_wrap : Comparable (numbersOf [⟨4294967295, 0, 1⟩, ⟨4294967296, 0, 2⟩]) ∧
    Agree [⟨4294967295, 0, 1⟩, ⟨4294967296, 0, 2⟩] := by
  have hcomparable : Comparable (numbersOf [⟨4294967295, 0, 1⟩, ⟨4294967296, 0, 2⟩]) :=
    ⟨by simp [numbersOf], by simp [numbersOf]⟩
  exact ⟨hcomparable, (agree_iff _ hcomparable).mpr ⟨0, by decide⟩⟩

end RoboBaton
