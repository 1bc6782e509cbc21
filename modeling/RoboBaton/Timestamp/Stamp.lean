import RoboBaton.Timestamp.Mapper

/-! The pipeline from two clock readings to ROS stamps, over the integers. -/

namespace RoboBaton.Timestamp

def readings (realtime monotonicRaw : Timespec) : SensorClockId → Option Timespec
  | .kRealtime => some realtime
  | .kMonotonicRaw => some monotonicRaw

def construct (realtime monotonicRaw : Timespec) : Except Error Snapshot :=
  capture (some (readSystemClock (readings realtime monotonicRaw)))

def RosStampParts.Before (p q : RosStampParts) : Prop :=
  p.sec < q.sec ∨ p.sec = q.sec ∧ p.nanosec < q.nanosec

variable {realtime monotonicRaw : Timespec} {snapshot : Snapshot}

theorem construct_eq_ok (h : construct realtime monotonicRaw = .ok snapshot) :
    realtime.Readable ∧ monotonicRaw.Readable ∧
      snapshot.realtimeMinusMonotonicRawNs.toInt = realtime.total - monotonicRaw.total := by
  simp only [construct, capture] at h
  split at h
  · cases h
  · rename_i r hr
    split at h
    · cases h
    · rename_i m hm
      obtain ⟨hreal, hrealNs⟩ : realtime.Readable ∧ (r.toNat : Int) = realtime.total :=
        (readSystemClock_eq_some rfl).mp hr
      obtain ⟨hraw, hrawNs⟩ : monotonicRaw.Readable ∧ (m.toNat : Int) = monotonicRaw.total :=
        (readSystemClock_eq_some rfl).mp hm
      rcases ho : checkedOffset r m with e | offset
      · rw [ho] at h
        cases h
      · rw [ho] at h
        cases h
        rw [checkedOffset_eq_ok] at ho
        refine ⟨hreal, hraw, ?_⟩
        show offset.toInt = _
        rw [ho, hrealNs, hrawNs]

theorem exists_uint64 {n : Int} (h0 : 0 ≤ n) (hn : n < 2 ^ 64) :
    ∃ x : UInt64, (x.toNat : Int) = n :=
  ⟨UInt64.ofNat n.toNat, by rw [UInt64.toNat_ofNat']; omega⟩

theorem exists_construct (hr : realtime.Readable) (hm : monotonicRaw.Readable)
    (hlo : -2 ^ 63 ≤ realtime.total - monotonicRaw.total)
    (hhi : realtime.total - monotonicRaw.total ≤ 2 ^ 63 - 1) :
    ∃ snapshot, construct realtime monotonicRaw = .ok snapshot := by
  have hbound : ∀ {value : Timespec}, value.Readable → 0 ≤ value.total ∧ value.total < 2 ^ 64 := by
    rintro value ⟨h1, h2, h3, h4⟩
    exact ⟨by unfold Timespec.total; omega, h4⟩
  obtain ⟨r, hrn⟩ := exists_uint64 (hbound hr).1 (hbound hr).2
  obtain ⟨m, hmn⟩ := exists_uint64 (hbound hm).1 (hbound hm).2
  have hread : readSystemClock (readings realtime monotonicRaw) .kRealtime = some r :=
    (readSystemClock_eq_some rfl).mpr ⟨hr, hrn⟩
  have hraw : readSystemClock (readings realtime monotonicRaw) .kMonotonicRaw = some m :=
    (readSystemClock_eq_some rfl).mpr ⟨hm, hmn⟩
  have hoff : checkedOffset r m = .ok (Int64.ofInt (realtime.total - monotonicRaw.total)) := by
    rw [checkedOffset_eq_ok, Int64.toInt_ofInt_of_le hlo (by omega), hrn, hmn]
  refine ⟨⟨r, m, Int64.ofInt (realtime.total - monotonicRaw.total)⟩, ?_⟩
  simp only [construct, capture, hread, hraw, hoff]
  rfl

theorem stamp_eq_ok {raw : UInt64} {parts : RosStampParts} :
    stamp snapshot raw = .ok parts ↔ 0 ≤ parts.sec.toInt ∧ parts.nanosec.toNat < 10 ^ 9 ∧
      parts.total = raw.toNat + snapshot.realtimeMinusMonotonicRawNs.toInt := by
  have hhi := parts.sec.toInt_lt
  constructor
  · intro h
    rcases hns : mapMonotonicRawToRealtimeNs snapshot raw with e | ns
    · rw [stamp, hns] at h
      cases h
    · rw [stamp, hns] at h
      rw [mapMonotonicRawToRealtimeNs_eq_ok] at hns
      obtain ⟨hnano, htotal⟩ := toRosStampParts_eq_ok.mp h
      refine ⟨?_, hnano, htotal.trans hns⟩
      unfold RosStampParts.total at htotal
      omega
  · rintro ⟨hsec, hnano, htotal⟩
    have hrange : 0 ≤ parts.total ∧ parts.total < 2 ^ 64 := by
      unfold RosStampParts.total
      omega
    obtain ⟨ns, hns⟩ := exists_uint64 hrange.1 hrange.2
    have hmap : mapMonotonicRawToRealtimeNs snapshot raw = .ok ns := by
      rw [mapMonotonicRawToRealtimeNs_eq_ok, hns, htotal]
    rw [stamp, hmap]
    exact toRosStampParts_eq_ok.mpr ⟨hnano, hns.symm⟩

theorem exists_stamp {raw : UInt64} {n : Int} (h0 : 0 ≤ n) (hn : n < 2 ^ 31 * 10 ^ 9)
    (he : n = raw.toNat + snapshot.realtimeMinusMonotonicRawNs.toInt) :
    ∃ parts, stamp snapshot raw = .ok parts := by
  refine ⟨⟨Int32.ofInt (n / 10 ^ 9), UInt32.ofNat (n % 10 ^ 9).toNat⟩, stamp_eq_ok.mpr ?_⟩
  have hsec : (Int32.ofInt (n / 10 ^ 9)).toInt = n / 10 ^ 9 :=
    Int32.toInt_ofInt_of_le (by omega) (by omega)
  have hnano : (UInt32.ofNat (n % 10 ^ 9).toNat).toNat = (n % 10 ^ 9).toNat := by
    rw [UInt32.toNat_ofNat']
    omega
  simp only [RosStampParts.total, hsec, hnano]
  omega

theorem before_iff_total {p q : RosStampParts} (hp : p.nanosec.toNat < 10 ^ 9)
    (hq : q.nanosec.toNat < 10 ^ 9) : p.Before q ↔ p.total < q.total := by
  rw [RosStampParts.Before, Int32.lt_iff_toInt_lt, ← Int32.toInt_inj, UInt32.lt_iff_toNat_lt,
    RosStampParts.total, RosStampParts.total]
  omega

theorem stamp_before_iff {raw raw' : UInt64} {p q : RosStampParts}
    (hp : stamp snapshot raw = .ok p) (hq : stamp snapshot raw' = .ok q) :
    raw < raw' ↔ p.Before q := by
  obtain ⟨-, hnano, htotal⟩ := stamp_eq_ok.mp hp
  obtain ⟨-, hnano', htotal'⟩ := stamp_eq_ok.mp hq
  rw [before_iff_total hnano hnano', htotal, htotal', UInt64.lt_iff_toNat_lt]
  omega

theorem toOption_eq_some {α : Type} {x : Except Error α} {a : α} :
    x.toOption = some a ↔ x = .ok a := by
  cases x <;> simp [Except.toOption]

/-- The pipeline is exact: construction and stamping succeed exactly when the integers fit,
and then the stamp is the raw timestamp moved by the difference of the clocks. -/
theorem stamp_exact (realtime monotonicRaw : Timespec) :
    ((∃ snapshot, construct realtime monotonicRaw = .ok snapshot) ↔
      realtime.Readable ∧ monotonicRaw.Readable ∧
        -2 ^ 63 ≤ realtime.total - monotonicRaw.total ∧
        realtime.total - monotonicRaw.total ≤ 2 ^ 63 - 1) ∧
    ∀ snapshot, construct realtime monotonicRaw = .ok snapshot →
      (∀ raw : UInt64,
        ((∃ parts, stamp snapshot raw = .ok parts) ↔
          0 ≤ raw.toNat + (realtime.total - monotonicRaw.total) ∧
            raw.toNat + (realtime.total - monotonicRaw.total) < 2 ^ 31 * 10 ^ 9) ∧
        ∀ parts, stamp snapshot raw = .ok parts →
          parts.total = raw.toNat + (realtime.total - monotonicRaw.total) ∧
            0 ≤ parts.sec.toInt ∧ parts.nanosec.toNat < 10 ^ 9) ∧
      ∀ (raw raw' : UInt64) (parts parts' : RosStampParts), stamp snapshot raw = .ok parts →
        stamp snapshot raw' = .ok parts' →
          (raw < raw' ↔ parts.Before parts') ∧
            parts'.total - parts.total = (raw'.toNat : Int) - raw.toNat := by
  refine ⟨⟨?_, ?_⟩, fun snapshot hc => ?_⟩
  · rintro ⟨snapshot, hc⟩
    obtain ⟨hr, hm, hoff⟩ := construct_eq_ok hc
    have hlo := snapshot.realtimeMinusMonotonicRawNs.le_toInt
    have hhi := snapshot.realtimeMinusMonotonicRawNs.toInt_lt
    exact ⟨hr, hm, by omega, by omega⟩
  · rintro ⟨hr, hm, hlo, hhi⟩
    exact exists_construct hr hm hlo hhi
  · obtain ⟨-, -, hoff⟩ := construct_eq_ok hc
    rw [← hoff]
    refine ⟨fun raw => ⟨⟨?_, ?_⟩, fun parts hs => ?_⟩, fun raw raw' parts parts' hs hs' => ?_⟩
    · rintro ⟨parts, hs⟩
      obtain ⟨hsec, hnano, htotal⟩ := stamp_eq_ok.mp hs
      have hhi := parts.sec.toInt_lt
      rw [← htotal, RosStampParts.total]
      omega
    · rintro ⟨h0, hn⟩
      exact exists_stamp h0 hn rfl
    · obtain ⟨hsec, hnano, htotal⟩ := stamp_eq_ok.mp hs
      exact ⟨htotal, hsec, hnano⟩
    · obtain ⟨-, -, htotal⟩ := stamp_eq_ok.mp hs
      obtain ⟨-, -, htotal'⟩ := stamp_eq_ok.mp hs'
      refine ⟨stamp_before_iff hs hs', ?_⟩
      rw [htotal, htotal']
      omega

example : (construct ⟨1700000000, 5⟩ ⟨100, 7⟩ >>= fun snapshot => stamp snapshot 250000000001) =
    .ok ⟨1700000149, 999999999⟩ := by decide

end RoboBaton.Timestamp
