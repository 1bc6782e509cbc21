import RoboBaton.Metrics.Fields

/-! The retry loop of `RecordPublishSuccess`. As long as no other thread raises the maximum, its
compare-exchange fails only for no reason, and a record function makes few accesses. -/

namespace RoboBaton.Metrics
variable {m : Metrics} {a : Access} {as : List Access}

def Access.retries : Access → Bool
  | .loadLatencyMax _ => true
  | .raiseLatencyMax .. => true
  | _ => false

def Access.Fresh (m : Metrics) : Access → Prop
  | .raiseLatencyMax _ expected => m.publishLatencyMaxNs = expected
  | _ => True

def Access.work : Access → ℕ
  | .loadLatencyMax _ => 2
  | _ => 1

def accessWork (as : List Access) : ℕ := (as.map Access.work).sum

theorem fresh_of_not_retries (h : a.retries = false) : a.Fresh m := by
  cases a with
  | raiseLatencyMax => cases h
  | _ => trivial

theorem latencyMax_exec (spurious : Bool) (m : Metrics) (h : a.retries = false) :
    (a.exec spurious m).1.publishLatencyMaxNs = m.publishLatencyMaxNs := by
  cases a with
  | setFirst monotonicNs =>
    simp only [Access.exec]
    split <;> rfl
  | lockedSource sequence timestampNs =>
    exact (recordTimestampLocked_rest _ _).1.trans (recordSequenceLocked_rest _ _).1
  | lockedTimestamp timestampNs => exact (recordTimestampLocked_rest _ _).1
  | loadLatencyMax => cases h
  | raiseLatencyMax => cases h
  | _ => rfl

theorem exec_inserts (spurious : Bool) (m : Metrics) (a : Access) :
    (a.exec spurious m).2 = [] ∨ a.retries = true ∧ (a.exec spurious m).1 = m ∧
      ∃ latencyNs, (a.exec spurious m).2 = [.raiseLatencyMax latencyNs m.publishLatencyMaxNs] := by
  cases a with
  | loadLatencyMax latencyNs =>
    simp only [Access.exec, raiseLoop]
    split
    · exact .inr ⟨rfl, trivial, latencyNs, rfl⟩
    · exact .inl rfl
  | raiseLatencyMax latencyNs expected =>
    simp only [Access.exec, raiseLoop]
    split
    · exact .inl rfl
    · split
      · exact .inr ⟨rfl, rfl, latencyNs, rfl⟩
      · exact .inl rfl
  | _ => exact .inl rfl

theorem exec_work (spurious : Bool) (h : a.Fresh m) :
    accessWork (a.exec spurious m).2 + (if spurious then 0 else 1) ≤ a.work := by
  obtain hnone | ⟨hretries, -, latencyNs, hraise⟩ := exec_inserts spurious m a
  · rw [hnone]
    cases spurious <;> cases a <;> simp [accessWork, Access.work]
  · cases a with
    | loadLatencyMax =>
      rw [hraise]
      cases spurious <;> simp [accessWork, Access.work]
    | raiseLatencyMax expected =>
      cases spurious with
      | true => rw [hraise]; simp [accessWork, Access.work]
      | false =>
        -- the exchange succeeds
        rw [Access.exec, if_pos ⟨h, rfl⟩] at hraise
        cases hraise
    | _ => cases hretries

/-- The accesses that one thread still has to make, where it alone raises the maximum. -/
structure Steady (m : Metrics) (as : List Access) : Prop where
  fresh : ∀ a ∈ as, a.Fresh m
  single : ∀ a ∈ as.tail, ∀ m', a.Fresh m'

theorem steady_nil (m : Metrics) : Steady m [] := ⟨nofun, nofun⟩

theorem steady_of_not_raise (h : ∀ a ∈ as, ∀ m', a.Fresh m') : Steady m as :=
  ⟨fun a ha => h a ha m, fun a ha => h a (List.mem_of_mem_tail ha)⟩

theorem Steady.exec (h : Steady m (a :: as)) (spurious : Bool) :
    Steady (a.exec spurious m).1 ((a.exec spurious m).2 ++ as) := by
  obtain hnone | ⟨-, hsame, latencyNs, hraise⟩ := exec_inserts spurious m a
  · rw [hnone]
    exact steady_of_not_raise h.single
  · rw [hsame, hraise]
    refine ⟨fun b hb => ?_, h.single⟩
    rcases List.mem_cons.mp hb with rfl | hb
    · rfl
    · exact h.single b hb m

theorem Steady.congr {m' : Metrics} (h : Steady m as)
    (hmax : m'.publishLatencyMaxNs = m.publishLatencyMaxNs) : Steady m' as := by
  refine ⟨fun b hb => ?_, h.single⟩
  have hb := h.fresh b hb
  cases b with
  | raiseLatencyMax latencyNs expected => exact hmax.trans hb
  | _ => trivial

/-! ### The record functions -/

theorem recordSource_work (sequence timestampNs monotonicNs : UInt64) :
    accessWork (recordSource sequence timestampNs monotonicNs) ≤ 3 := by
  unfold recordSource setFirstMonotonic
  split <;> simp [accessWork, Access.work]

theorem recordSourceWithoutSequence_work (timestampNs monotonicNs : UInt64) :
    accessWork (recordSourceWithoutSequence timestampNs monotonicNs) ≤ 3 := by
  unfold recordSourceWithoutSequence setFirstMonotonic
  split <;> simp [accessWork, Access.work]

end RoboBaton.Metrics
