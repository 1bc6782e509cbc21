import RoboBaton.Metrics.Record
import Mathlib.Tactic.SplitIfs

/-! The twelve additive fields, and what one access does to each of them. -/

namespace RoboBaton
open Metrics

inductive Field
  | source
  | publish
  | auxiliary
  | drop
  | failure
  | sequenceGap
  | sequenceDuplicate
  | sequenceRegression
  | timestampDuplicate
  | timestampRegression
  | latencyCount
  | latencySum
  deriving DecidableEq

namespace Field

def counter (m : Metrics) : Field → Counter
  | .source => m.sourceCount
  | .publish => m.publishCount
  | .auxiliary => m.auxiliaryPublishCount
  | .drop => m.dropCount
  | .failure => m.publishFailureCount
  | .sequenceGap => m.sequenceGapCount
  | .sequenceDuplicate => m.sequenceDuplicateCount
  | .sequenceRegression => m.sequenceRegressionCount
  | .timestampDuplicate => m.timestampDuplicateCount
  | .timestampRegression => m.timestampRegressionCount
  | .latencyCount => m.publishLatencyCount
  | .latencySum => m.publishLatencySumNs

def plain : Field → Bool
  | .source | .publish | .auxiliary | .drop | .failure | .latencyCount | .latencySum => true
  | _ => false

def amount : Field → Access → Nat
  | .source, .addSource => 1
  | .publish, .addPublish => 1
  | .auxiliary, .addAuxiliary => 1
  | .drop, .addDrop => 1
  | .failure, .addFailure => 1
  | .latencyCount, .addLatencyCount => 1
  | .latencySum, .addLatencySum latencyNs => latencyNs.toNat
  | _, _ => 0

def pending (f : Field) (as : List Access) : Nat := (as.map f.amount).sum

@[simp] theorem pending_nil (f : Field) : f.pending [] = 0 := rfl

@[simp] theorem pending_cons (f : Field) (a : Access) (as : List Access) :
    f.pending (a :: as) = f.amount a + f.pending as := List.sum_cons

@[simp] theorem pending_append (f : Field) (as bs : List Access) :
    f.pending (as ++ bs) = f.pending as + f.pending bs := by
  rw [pending, List.map_append, List.sum_append]
  rfl

end Field

namespace Metrics

theorem counter_recordTimestampLocked (m : Metrics) (timestampNs : UInt64) {f : Field}
    (hf : f.plain = true) : f.counter (m.recordTimestampLocked timestampNs) = f.counter m := by
  unfold recordTimestampLocked
  cases f <;> first | exact absurd hf (by decide) | (dsimp only [Field.counter]; split_ifs <;> rfl)

theorem counter_recordSequenceLocked (m : Metrics) (sequence : UInt64) {f : Field}
    (hf : f.plain = true) : f.counter (m.recordSequenceLocked sequence) = f.counter m := by
  unfold recordSequenceLocked
  cases f <;> first | exact absurd hf (by decide) | (dsimp only [Field.counter]; split_ifs <;> rfl)

theorem pending_raiseLoop (f : Field) (latencyNs expected : UInt64) :
    f.pending (raiseLoop latencyNs expected) = 0 := by
  unfold raiseLoop
  split
  · cases f <;> rfl
  · rfl

theorem counter_exec (spurious : Bool) (m : Metrics) (a : Access) {f : Field}
    (hf : f.plain = true) :
    (f.counter (a.exec spurious m).1).total = (f.counter m).total + f.amount a ∧
      f.pending (a.exec spurious m).2 = 0 := by
  cases a with
  | setFirst monotonicNs =>
    refine ⟨?_, rfl⟩
    simp only [Access.exec]
    split <;> cases f <;> rfl
  | lockedSource sequence timestampNs =>
    refine ⟨?_, rfl⟩
    rw [Access.exec, counter_recordTimestampLocked _ _ hf, counter_recordSequenceLocked _ _ hf]
    cases f <;> rfl
  | lockedTimestamp timestampNs =>
    refine ⟨?_, rfl⟩
    rw [Access.exec, counter_recordTimestampLocked _ _ hf]
    cases f <;> rfl
  | loadLatencyMax latencyNs => exact ⟨by cases f <;> rfl, pending_raiseLoop ..⟩
  | raiseLatencyMax latencyNs expected =>
    simp only [Access.exec]
    split
    · exact ⟨by cases f <;> rfl, rfl⟩
    · exact ⟨by cases f <;> rfl, pending_raiseLoop ..⟩
  | _ => cases f <;> exact ⟨rfl, rfl⟩

theorem le_recordTimestampLocked (m : Metrics) (timestampNs : UInt64) (f : Field) :
    (f.counter m).total ≤ (f.counter (m.recordTimestampLocked timestampNs)).total := by
  unfold recordTimestampLocked
  cases f <;> dsimp only [Field.counter] <;> split_ifs <;> simp

theorem le_recordSequenceLocked (m : Metrics) (sequence : UInt64) (f : Field) :
    (f.counter m).total ≤ (f.counter (m.recordSequenceLocked sequence)).total := by
  unfold recordSequenceLocked
  cases f <;> dsimp only [Field.counter] <;> split_ifs <;> simp

theorem le_exec (spurious : Bool) (m : Metrics) (a : Access) (f : Field) :
    (f.counter m).total ≤ (f.counter (a.exec spurious m).1).total := by
  cases a with
  | lockedSource sequence timestampNs =>
    exact Nat.le_trans (le_recordSequenceLocked m sequence f)
      (le_recordTimestampLocked _ timestampNs f)
  | lockedTimestamp timestampNs => exact le_recordTimestampLocked m timestampNs f
  | setFirst monotonicNs =>
    simp only [Access.exec]
    split <;> cases f <;> exact Nat.le_refl _
  | raiseLatencyMax latencyNs expected =>
    simp only [Access.exec]
    split <;> cases f <;> exact Nat.le_refl _
  | _ => cases f <;> first | exact Nat.le_refl _ | exact Nat.le_add_right _ _

theorem recordTimestampLocked_rest (m : Metrics) (timestampNs : UInt64) :
    (m.recordTimestampLocked timestampNs).publishLatencyMaxNs = m.publishLatencyMaxNs ∧
      (m.recordTimestampLocked timestampNs).firstMonotonicNs = m.firstMonotonicNs := by
  unfold recordTimestampLocked
  constructor <;> dsimp only <;> split_ifs <;> rfl

theorem recordSequenceLocked_rest (m : Metrics) (sequence : UInt64) :
    (m.recordSequenceLocked sequence).publishLatencyMaxNs = m.publishLatencyMaxNs ∧
      (m.recordSequenceLocked sequence).firstMonotonicNs = m.firstMonotonicNs := by
  unfold recordSequenceLocked
  constructor <;> dsimp only <;> split_ifs <;> rfl

theorem first_exec (spurious : Bool) (m : Metrics) (a : Access) :
    (a.exec spurious m).1.firstMonotonicNs = m.firstMonotonicNs ∨
      m.firstMonotonicNs = 0 ∧ a = .setFirst (a.exec spurious m).1.firstMonotonicNs := by
  cases a with
  | setFirst monotonicNs =>
    simp only [Access.exec]
    split
    · exact .inr ⟨‹_›, rfl⟩
    · exact .inl rfl
  | lockedSource sequence timestampNs =>
    exact .inl ((recordTimestampLocked_rest _ timestampNs).2.trans
      (recordSequenceLocked_rest m sequence).2)
  | lockedTimestamp timestampNs => exact .inl (recordTimestampLocked_rest m timestampNs).2
  | raiseLatencyMax latencyNs expected =>
    simp only [Access.exec]
    split <;> exact .inl rfl
  | _ => exact .inl rfl

theorem setFirst_notMem_exec (spurious : Bool) (m : Metrics) (a : Access) (ns : UInt64) :
    .setFirst ns ∉ (a.exec spurious m).2 := by
  have hloop : ∀ latencyNs expected, .setFirst ns ∉ raiseLoop latencyNs expected := by
    intro latencyNs expected
    unfold raiseLoop
    split <;> simp
  cases a with
  | loadLatencyMax latencyNs => exact hloop _ _
  | raiseLatencyMax latencyNs expected =>
    simp only [Access.exec]
    split
    · exact List.not_mem_nil
    · exact hloop _ _
  | _ => exact List.not_mem_nil

end Metrics
end RoboBaton
