import RoboBaton.Metrics.Record
import Mathlib.Tactic.SplitIfs

/-! The counters that count frames, and what a list of accesses is going to add to them. -/

namespace RoboBaton

inductive Tally
  | source
  | publish
  | auxiliary
  | drop
  | failure
  deriving DecidableEq

namespace Tally

def access : Tally → Metrics.Access
  | .source => .addSource
  | .publish => .addPublish
  | .auxiliary => .addAuxiliary
  | .drop => .addDrop
  | .failure => .addFailure

def total (m : Metrics) : Tally → Nat
  | .source => m.sourceCount.total
  | .publish => m.publishCount.total
  | .auxiliary => m.auxiliaryPublishCount.total
  | .drop => m.dropCount.total
  | .failure => m.publishFailureCount.total

end Tally

namespace Metrics

theorem total_recordTimestampLocked (m : Metrics) (timestampNs : UInt64) (t : Tally) :
    t.total (m.recordTimestampLocked timestampNs) = t.total m := by
  unfold recordTimestampLocked
  cases t <;> dsimp only [Tally.total] <;> split_ifs <;> rfl

theorem total_recordSequenceLocked (m : Metrics) (sequence : UInt64) (t : Tally) :
    t.total (m.recordSequenceLocked sequence) = t.total m := by
  unfold recordSequenceLocked
  cases t <;> dsimp only [Tally.total] <;> split_ifs <;> rfl

theorem raiseLoop_count (latencyNs expected : UInt64) (t : Tally) :
    (raiseLoop latencyNs expected).count t.access = 0 := by
  unfold raiseLoop
  cases t <;> split <;> rfl

theorem total_exec (spurious : Bool) (m : Metrics) (a : Access) (t : Tally) :
    t.total (a.exec spurious m).1 = t.total m + [a].count t.access ∧
      (a.exec spurious m).2.count t.access = 0 := by
  cases a with
  | setFirst monotonicNs =>
    refine ⟨?_, rfl⟩
    simp only [Access.exec]
    split <;> cases t <;> rfl
  | lockedSource sequence timestampNs =>
    refine ⟨?_, rfl⟩
    rw [Access.exec, total_recordTimestampLocked, total_recordSequenceLocked]
    cases t <;> rfl
  | lockedTimestamp timestampNs =>
    refine ⟨?_, rfl⟩
    rw [Access.exec, total_recordTimestampLocked]
    cases t <;> rfl
  | loadLatencyMax latencyNs => exact ⟨by cases t <;> rfl, raiseLoop_count ..⟩
  | raiseLatencyMax latencyNs expected =>
    simp only [Access.exec]
    split
    · exact ⟨by cases t <;> rfl, rfl⟩
    · exact ⟨by cases t <;> rfl, raiseLoop_count ..⟩
  | _ => cases t <;> exact ⟨rfl, rfl⟩

end Metrics
end RoboBaton
