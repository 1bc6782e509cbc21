import Mathlib

/-! `SensorTimestampMapper`: one pair of clock readings fixes the offset between the raw
monotonic clock and the realtime clock; every sensor timestamp is moved by that offset and
split into a ROS stamp. Each 64-bit step checks its own range. -/

namespace RoboBaton

/-- The exceptions the code throws, with their texts. `outOfBounds` stands for a memory
access outside a buffer, which no C++ statement reports. -/
inductive Error where
  | invalidArgument (what : String)
  | runtimeError (what : String)
  | overflowError (what : String)
  | outOfBounds
  deriving DecidableEq, Repr

theorem bind_eq_ok {α β : Type} {x : Except Error α} {f : α → Except Error β} {b : β} :
    (x >>= f) = .ok b ↔ ∃ a, x = .ok a ∧ f a = .ok b := by
  cases x with
  | error e => exact ⟨nofun, nofun⟩
  | ok a => exact ⟨fun h => ⟨a, rfl, h⟩, by rintro ⟨a', ⟨⟩, h⟩; exact h⟩

theorem ite_error_eq_ok {α : Type} {c : Prop} [Decidable c] {e : Error} {x : Except Error α}
    {a : α} : (if c then .error e else x) = .ok a ↔ ¬ c ∧ x = .ok a := by
  split
  · rename_i hc
    exact ⟨nofun, fun h => absurd hc h.1⟩
  · rename_i hc
    exact ⟨fun h => ⟨hc, h⟩, fun h => h.2⟩

theorem ok_bind {α β : Type} (a : α) (f : α → Except Error β) : (Except.ok a >>= f) = f a := by
  simp only [bind, Except.bind]

namespace Timestamp

def kNanosecondsPerSecond : UInt64 := 1000000000

def uint64Max : UInt64 := 0xFFFFFFFFFFFFFFFF

def maxPositive : UInt64 := 0x7FFFFFFFFFFFFFFF

structure Timespec where
  tvSec : Int64
  tvNsec : Int64
  deriving DecidableEq, Repr

inductive SensorClockId where
  | kRealtime
  | kMonotonicRaw
  deriving DecidableEq, Repr

structure Snapshot where
  realtimeStartNs : UInt64
  monotonicRawStartNs : UInt64
  realtimeMinusMonotonicRawNs : Int64
  deriving DecidableEq, Repr

structure RosStampParts where
  sec : Int32
  nanosec : UInt32
  deriving DecidableEq, Repr

/-- `SensorClockReadFn`: a status other than 0 is `none`. -/
abbrev ClockReader := SensorClockId → Option UInt64

def readSystemClock (clockGettime : SensorClockId → Option Timespec) : ClockReader := fun clockId =>
  match clockGettime clockId with
  | none => none
  | some value =>
    if value.tvSec < 0 ∨ value.tvNsec < 0 ∨ value.tvNsec ≥ kNanosecondsPerSecond.toInt64 then none
    else
      let seconds := value.tvSec.toUInt64
      if seconds > uint64Max / kNanosecondsPerSecond then none
      else
        let wholeSecondsNs := seconds * kNanosecondsPerSecond
        let subsecondNs := value.tvNsec.toUInt64
        if wholeSecondsNs > uint64Max - subsecondNs then none
        else some (wholeSecondsNs + subsecondNs)

def negativeOffsetMagnitude (offsetNs : Int64) : UInt64 :=
  if offsetNs = Int64.minValue then maxPositive + 1 else (-offsetNs).toUInt64

def checkedOffset (realtimeNs monotonicRawNs : UInt64) : Except Error Int64 :=
  if realtimeNs ≥ monotonicRawNs then
    let positiveOffset := realtimeNs - monotonicRawNs
    if positiveOffset > maxPositive then
      .error (.overflowError "realtime/raw offset is outside int64 range")
    else .ok positiveOffset.toInt64
  else
    let negativeOffset := monotonicRawNs - realtimeNs
    let maxNegativeMagnitude := maxPositive + 1
    if negativeOffset > maxNegativeMagnitude then
      .error (.overflowError "realtime/raw offset is outside int64 range")
    else if negativeOffset = maxNegativeMagnitude then .ok Int64.minValue
    else .ok (-negativeOffset.toInt64)

def capture : Option ClockReader → Except Error Snapshot
  | none => .error (.invalidArgument "sensor timestamp clock reader is null")
  | some reader =>
    match reader .kRealtime with
    | none => .error (.runtimeError "CLOCK_REALTIME read failed")
    | some realtime =>
      match reader .kMonotonicRaw with
      | none => .error (.runtimeError "CLOCK_MONOTONIC_RAW read failed")
      | some raw => (checkedOffset realtime raw).map fun offset => ⟨realtime, raw, offset⟩

def mapMonotonicRawToRealtimeNs (snapshot : Snapshot) (rawTimestampNs : UInt64) :
    Except Error UInt64 :=
  let offsetNs := snapshot.realtimeMinusMonotonicRawNs
  if offsetNs ≥ 0 then
    let positiveOffset := offsetNs.toUInt64
    if rawTimestampNs > uint64Max - positiveOffset then
      .error (.overflowError "sensor timestamp realtime mapping overflow")
    else .ok (rawTimestampNs + positiveOffset)
  else
    let negativeOffset := negativeOffsetMagnitude offsetNs
    if rawTimestampNs < negativeOffset then
      .error (.overflowError "sensor timestamp realtime mapping underflow")
    else .ok (rawTimestampNs - negativeOffset)

def toRosStampParts (realtimeTimestampNs : UInt64) : Except Error RosStampParts :=
  let seconds := realtimeTimestampNs / kNanosecondsPerSecond
  if seconds > 0x7FFFFFFF then
    .error (.overflowError "ROS timestamp seconds exceed int32 range")
  else .ok ⟨seconds.toInt64.toInt32, (realtimeTimestampNs % kNanosecondsPerSecond).toUInt32⟩

/-- The mapping of a sensor timestamp and the split into a stamp. -/
def stamp (snapshot : Snapshot) (rawTimestampNs : UInt64) : Except Error RosStampParts :=
  mapMonotonicRawToRealtimeNs snapshot rawTimestampNs >>= toRosStampParts

/-! ### Each function over the integers -/

theorem toInt_toInt64 {x : UInt64} (h : x.toNat < 2 ^ 63) : x.toInt64.toInt = x.toNat := by
  rw [← UInt64.ofNat_toNat (x := x), UInt64.toInt64_ofNat', Int64.toInt_ofNat_of_lt h,
    UInt64.ofNat_toNat]

theorem toNat_toUInt64 {x : Int64} (h : 0 ≤ x.toInt) : (x.toUInt64.toNat : Int) = x.toInt := by
  rw [Int64.toNat_toUInt64_of_le (Int64.le_iff_toInt_le.mpr h), Int64.toNatClampNeg,
    Int.toNat_of_nonneg h]

theorem toNat_negativeOffsetMagnitude {x : Int64} (h : x.toInt < 0) :
    ((negativeOffsetMagnitude x).toNat : Int) = -x.toInt := by
  have hlo := x.le_toInt
  unfold negativeOffsetMagnitude
  split
  · rename_i hx
    rw [hx]
    rfl
  · rename_i hx
    have hne : x.toInt ≠ -2 ^ 63 := fun he =>
      hx (Int64.toInt_inj.mp (he.trans Int64.toInt_minValue.symm))
    have hneg : (-x).toInt = -x.toInt := by
      rw [Int64.toInt_neg, Int.bmod_eq_of_le] <;> omega
    rw [toNat_toUInt64 (by omega), hneg]

namespace Timespec

def total (value : Timespec) : Int := value.tvSec.toInt * 10 ^ 9 + value.tvNsec.toInt

def Readable (value : Timespec) : Prop :=
  0 ≤ value.tvSec.toInt ∧ 0 ≤ value.tvNsec.toInt ∧ value.tvNsec.toInt < 10 ^ 9 ∧
    value.total < 2 ^ 64

end Timespec

def RosStampParts.total (parts : RosStampParts) : Int :=
  parts.sec.toInt * 10 ^ 9 + parts.nanosec.toNat

theorem readSystemClock_eq_some {clockGettime : SensorClockId → Option Timespec}
    {clockId : SensorClockId} {value : Timespec} (hv : clockGettime clockId = some value)
    {ns : UInt64} : readSystemClock clockGettime clockId = some ns ↔
      value.Readable ∧ (ns.toNat : Int) = value.total := by
  simp only [readSystemClock, hv, Timespec.Readable, Timespec.total]
  have h1 : kNanosecondsPerSecond.toInt64.toInt = 10 ^ 9 := by decide
  have h2 : kNanosecondsPerSecond.toNat = 10 ^ 9 := by decide
  have h3 : (uint64Max / kNanosecondsPerSecond).toNat = 18446744073 := by decide
  have h4 : uint64Max.toNat = 2 ^ 64 - 1 := by decide
  split
  · rename_i hbad
    rw [Int64.lt_iff_toInt_lt, Int64.lt_iff_toInt_lt, ge_iff_le, Int64.le_iff_toInt_le, h1,
      Int64.toInt_zero] at hbad
    simp only [reduceCtorEq, false_iff]
    omega
  · rename_i hgood
    rw [Int64.lt_iff_toInt_lt, Int64.lt_iff_toInt_lt, ge_iff_le, Int64.le_iff_toInt_le, h1,
      Int64.toInt_zero, not_or, not_or, Int.not_lt, Int.not_lt, Int.not_le] at hgood
    obtain ⟨hs, hn, hlt⟩ := hgood
    have hsec := toNat_toUInt64 hs
    have hnsec := toNat_toUInt64 hn
    split
    · rename_i hbig
      rw [gt_iff_lt, UInt64.lt_iff_toNat_lt, h3] at hbig
      simp only [reduceCtorEq, false_iff]
      omega
    · rename_i hsmall
      rw [gt_iff_lt, UInt64.lt_iff_toNat_lt, h3] at hsmall
      have hwhole : (value.tvSec.toUInt64 * kNanosecondsPerSecond).toNat =
          value.tvSec.toUInt64.toNat * 10 ^ 9 := by
        rw [UInt64.toNat_mul, h2, Nat.mod_eq_of_lt (by omega)]
      have hroom : (uint64Max - value.tvNsec.toUInt64).toNat =
          2 ^ 64 - 1 - value.tvNsec.toUInt64.toNat := by
        rw [UInt64.toNat_sub_of_le _ _ (by rw [UInt64.le_iff_toNat_le]; omega), h4]
      split
      · rename_i hbig
        rw [gt_iff_lt, UInt64.lt_iff_toNat_lt, hwhole, hroom] at hbig
        simp only [reduceCtorEq, false_iff]
        omega
      · rename_i hfit
        rw [gt_iff_lt, UInt64.lt_iff_toNat_lt, hwhole, hroom] at hfit
        rw [Option.some_inj, ← UInt64.toNat_inj, UInt64.toNat_add, hwhole]
        omega

theorem checkedOffset_eq_ok {realtimeNs monotonicRawNs : UInt64} {offset : Int64} :
    checkedOffset realtimeNs monotonicRawNs = .ok offset ↔
      offset.toInt = realtimeNs.toNat - monotonicRawNs.toNat := by
  have h1 : maxPositive.toNat = 2 ^ 63 - 1 := by decide
  have h2 : (maxPositive + 1).toNat = 2 ^ 63 := by decide
  have hlo := offset.le_toInt
  have hhi := offset.toInt_lt
  have hr := realtimeNs.toNat_lt
  have hm := monotonicRawNs.toNat_lt
  simp only [checkedOffset]
  split
  · rename_i hge
    rw [ge_iff_le, UInt64.le_iff_toNat_le] at hge
    have hsub := UInt64.toNat_sub_of_le _ _ (UInt64.le_iff_toNat_le.mpr hge)
    split
    · rename_i hbig
      rw [gt_iff_lt, UInt64.lt_iff_toNat_lt, h1] at hbig
      simp only [reduceCtorEq, false_iff]
      omega
    · rename_i hfit
      rw [gt_iff_lt, UInt64.lt_iff_toNat_lt, h1] at hfit
      have hcast := toInt_toInt64 (x := realtimeNs - monotonicRawNs) (by omega)
      rw [Except.ok.injEq, ← Int64.toInt_inj, hcast]
      omega
  · rename_i hlt
    rw [ge_iff_le, UInt64.le_iff_toNat_le] at hlt
    have hsub := UInt64.toNat_sub_of_le monotonicRawNs realtimeNs
      (by rw [UInt64.le_iff_toNat_le]; omega)
    split
    · rename_i hbig
      rw [gt_iff_lt, UInt64.lt_iff_toNat_lt, h2] at hbig
      simp only [reduceCtorEq, false_iff]
      omega
    · rename_i hfit
      rw [gt_iff_lt, UInt64.lt_iff_toNat_lt, h2] at hfit
      split
      · rename_i hmin
        rw [← UInt64.toNat_inj, h2] at hmin
        rw [Except.ok.injEq, ← Int64.toInt_inj, Int64.toInt_minValue]
        omega
      · rename_i hne
        rw [← UInt64.toNat_inj, h2] at hne
        have hcast := toInt_toInt64 (x := monotonicRawNs - realtimeNs) (by omega)
        rw [Except.ok.injEq, ← Int64.toInt_inj, Int64.toInt_neg, hcast,
          Int.bmod_eq_of_le (by omega) (by omega)]
        omega

theorem mapMonotonicRawToRealtimeNs_eq_ok {snapshot : Snapshot} {raw ns : UInt64} :
    mapMonotonicRawToRealtimeNs snapshot raw = .ok ns ↔
      (ns.toNat : Int) = raw.toNat + snapshot.realtimeMinusMonotonicRawNs.toInt := by
  have h4 : uint64Max.toNat = 2 ^ 64 - 1 := by decide
  have hlo := snapshot.realtimeMinusMonotonicRawNs.le_toInt
  have hhi := snapshot.realtimeMinusMonotonicRawNs.toInt_lt
  have hns := ns.toNat_lt
  have hraw := raw.toNat_lt
  simp only [mapMonotonicRawToRealtimeNs]
  split
  · rename_i hge
    rw [ge_iff_le, Int64.le_iff_toInt_le, Int64.toInt_zero] at hge
    have hcast := toNat_toUInt64 hge
    have hroom := UInt64.toNat_sub_of_le uint64Max snapshot.realtimeMinusMonotonicRawNs.toUInt64
      (by rw [UInt64.le_iff_toNat_le]; omega)
    split
    · rename_i hbig
      rw [gt_iff_lt, UInt64.lt_iff_toNat_lt] at hbig
      simp only [reduceCtorEq, false_iff]
      omega
    · rename_i hfit
      rw [gt_iff_lt, UInt64.lt_iff_toNat_lt] at hfit
      rw [Except.ok.injEq, ← UInt64.toNat_inj, UInt64.toNat_add]
      omega
  · rename_i hneg
    rw [ge_iff_le, Int64.le_iff_toInt_le, Int64.toInt_zero, Int.not_le] at hneg
    have hmag := toNat_negativeOffsetMagnitude hneg
    split
    · rename_i hsmall
      rw [UInt64.lt_iff_toNat_lt] at hsmall
      simp only [reduceCtorEq, false_iff]
      omega
    · rename_i hfit
      rw [UInt64.lt_iff_toNat_lt] at hfit
      have hsub := UInt64.toNat_sub_of_le raw
        (negativeOffsetMagnitude snapshot.realtimeMinusMonotonicRawNs)
        (by rw [UInt64.le_iff_toNat_le]; omega)
      rw [Except.ok.injEq, ← UInt64.toNat_inj]
      omega

theorem toRosStampParts_eq_ok {ns : UInt64} {parts : RosStampParts} :
    toRosStampParts ns = .ok parts ↔
      parts.nanosec.toNat < 10 ^ 9 ∧ parts.total = ns.toNat := by
  obtain ⟨sec, nanosec⟩ := parts
  have h2 : kNanosecondsPerSecond.toNat = 10 ^ 9 := by decide
  have hns := ns.toNat_lt
  have hlo := sec.le_toInt
  have hhi := sec.toInt_lt
  simp only [toRosStampParts, RosStampParts.total]
  split
  · rename_i hbig
    rw [gt_iff_lt, UInt64.lt_iff_toNat_lt, UInt64.toNat_div, h2] at hbig
    have h5 : (0x7FFFFFFF : UInt64).toNat = 2 ^ 31 - 1 := by decide
    simp only [reduceCtorEq, false_iff]
    omega
  · rename_i hfit
    rw [gt_iff_lt, UInt64.lt_iff_toNat_lt, UInt64.toNat_div, h2] at hfit
    have h5 : (0x7FFFFFFF : UInt64).toNat = 2 ^ 31 - 1 := by decide
    have hsec : (ns / kNanosecondsPerSecond).toInt64.toInt32.toInt = ns.toNat / 10 ^ 9 := by
      have hcast := toInt_toInt64 (x := ns / kNanosecondsPerSecond)
        (by rw [UInt64.toNat_div, h2]; omega)
      rw [Int64.toInt_toInt32, hcast, UInt64.toNat_div, h2,
        Int.bmod_eq_of_le (by omega) (by omega), Int.natCast_ediv]
      rfl
    have hsub : (ns % kNanosecondsPerSecond).toUInt32.toNat = ns.toNat % 10 ^ 9 := by
      rw [UInt64.toNat_toUInt32, UInt64.toNat_mod, h2]
      omega
    rw [Except.ok.injEq, RosStampParts.mk.injEq, ← Int32.toInt_inj, ← UInt32.toNat_inj, hsec, hsub]
    omega

end Timestamp
end RoboBaton
