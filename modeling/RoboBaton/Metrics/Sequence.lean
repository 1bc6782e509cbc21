import RoboBaton.Metrics.Record
import RoboBaton.Library.Adjacent
import Mathlib.Tactic.SplitIfs

/-! Histories of `RecordSource` calls: how the sequence numbers are classified, against the
last one and over a whole history. -/

namespace RoboBaton

inductive Anomaly
  | gap
  | duplicate
  | regression
  deriving DecidableEq

/-- The tests of `RecordSource`, in their order, on numbers that are normalized already. -/
def classify (width : SequenceWidth) (last sequence : UInt64) : Option Anomaly :=
  if sequence = last then some .duplicate
  else if sequence ≠ expectedNext last width then
    if sequence > expectedNext last width ∨
        (width = .k32Bit ∧ last > uint32Max / 2 ∧ sequence < uint32Max / 2) then some .gap
    else some .regression
  else none

structure SourceCall where
  sequence : UInt64
  timestampNs : UInt64
  monotonicNs : UInt64

namespace Anomaly

def counter (m : Metrics) : Anomaly → Counter
  | .gap => m.sequenceGapCount
  | .duplicate => m.sequenceDuplicateCount
  | .regression => m.sequenceRegressionCount

end Anomaly

namespace Metrics

def sourceCall (m : Metrics) (call : SourceCall) : Metrics :=
  (recordSource call.sequence call.timestampNs call.monotonicNs).foldl
    (fun m a => (a.exec false m).1) m

def sourceCalls (width : SequenceWidth) (calls : List SourceCall) : Metrics :=
  calls.foldl sourceCall (new width)

theorem recordTimestampLocked_sequence (m : Metrics) (timestampNs : UInt64) :
    (m.recordTimestampLocked timestampNs).sequenceWidth = m.sequenceWidth ∧
    (m.recordTimestampLocked timestampNs).sequenceInitialized = m.sequenceInitialized ∧
    (m.recordTimestampLocked timestampNs).lastSequence = m.lastSequence ∧
    ∀ a : Anomaly, a.counter (m.recordTimestampLocked timestampNs) = a.counter m := by
  unfold recordTimestampLocked
  refine ⟨?_, ?_, ?_, fun a => ?_⟩
  · split_ifs <;> rfl
  · split_ifs <;> rfl
  · split_ifs <;> rfl
  · cases a <;> dsimp only [Anomaly.counter] <;> split_ifs <;> rfl

theorem recordSequenceLocked_state (m : Metrics) (sequence : UInt64) :
    (m.recordSequenceLocked sequence).sequenceWidth = m.sequenceWidth ∧
    (m.recordSequenceLocked sequence).sequenceInitialized = decide (m.sequenceWidth ≠ .kNone) ∧
    (m.recordSequenceLocked sequence).lastSequence =
      normalizeSequence sequence m.sequenceWidth := by
  unfold recordSequenceLocked
  refine ⟨?_, rfl, rfl⟩
  dsimp only
  split_ifs <;> rfl

theorem recordSequenceLocked_counts {m : Metrics} (hw : m.sequenceWidth ≠ .kNone)
    (hi : m.sequenceInitialized = true) (sequence : UInt64) (a : Anomaly) :
    (a.counter (m.recordSequenceLocked sequence)).total = (a.counter m).total +
      if classify m.sequenceWidth m.lastSequence (normalizeSequence sequence m.sequenceWidth) =
        some a then 1 else 0 := by
  have henabled : m.sequenceWidth ≠ .kNone ∧ m.sequenceInitialized = true := ⟨hw, hi⟩
  unfold recordSequenceLocked classify
  simp only [if_pos henabled]
  cases a <;> dsimp only [Anomaly.counter] <;> split_ifs <;> simp_all

theorem recordSequenceLocked_first {m : Metrics} (hi : m.sequenceInitialized = false)
    (sequence : UInt64) (a : Anomaly) :
    a.counter (m.recordSequenceLocked sequence) = a.counter m := by
  have hdisabled : ¬ (m.sequenceWidth ≠ .kNone ∧ m.sequenceInitialized = true) := by simp [hi]
  unfold recordSequenceLocked
  simp only [if_neg hdisabled]
  cases a <;> rfl

theorem sourceCall_locked (m : Metrics) (call : SourceCall) :
    ∃ m' : Metrics, m.sourceCall call =
        (m'.recordSequenceLocked call.sequence).recordTimestampLocked call.timestampNs ∧
      m'.sequenceWidth = m.sequenceWidth ∧ m'.sequenceInitialized = m.sequenceInitialized ∧
      m'.lastSequence = m.lastSequence ∧ ∀ a : Anomaly, a.counter m' = a.counter m := by
  have hset : ∀ ns, ∃ m' : Metrics, (setFirstMonotonic ns).foldl (fun m a => (a.exec false m).1) m =
      m' ∧ m'.sequenceWidth = m.sequenceWidth ∧ m'.sequenceInitialized = m.sequenceInitialized ∧
      m'.lastSequence = m.lastSequence ∧ ∀ a : Anomaly, a.counter m' = a.counter m := by
    intro ns
    refine ⟨_, rfl, ?_⟩
    unfold setFirstMonotonic
    split_ifs
    · exact ⟨rfl, rfl, rfl, fun _ => rfl⟩
    · simp only [List.foldl_cons, List.foldl_nil, Access.exec]
      split_ifs
      · exact ⟨rfl, rfl, rfl, fun a => by cases a <;> rfl⟩
      · exact ⟨rfl, rfl, rfl, fun _ => rfl⟩
  obtain ⟨m', hm', hw, hi, hl, ha⟩ := hset call.monotonicNs
  refine ⟨{ m' with sourceCount := m'.sourceCount.fetchAdd 1 }, ?_, hw, hi, hl, fun a => ?_⟩
  · rw [sourceCall, recordSource, List.foldl_append, hm']
    rfl
  · rw [← ha a]
    cases a <;> rfl

theorem sourceCall_state (m : Metrics) (call : SourceCall) :
    (m.sourceCall call).sequenceWidth = m.sequenceWidth ∧
    (m.sourceCall call).sequenceInitialized = decide (m.sequenceWidth ≠ .kNone) ∧
    (m.sourceCall call).lastSequence = normalizeSequence call.sequence m.sequenceWidth := by
  obtain ⟨m', he, hw, -, -, -⟩ := sourceCall_locked m call
  obtain ⟨htw, hti, htl, -⟩ :=
    recordTimestampLocked_sequence (m'.recordSequenceLocked call.sequence) call.timestampNs
  obtain ⟨hsw, hsi, hsl⟩ := recordSequenceLocked_state m' call.sequence
  rw [he, htw, hti, htl, hsw, hsi, hsl, hw]
  exact ⟨rfl, rfl, rfl⟩

theorem sourceCall_counts {m : Metrics} (hw : m.sequenceWidth ≠ .kNone)
    (hi : m.sequenceInitialized = true) (call : SourceCall) (a : Anomaly) :
    (a.counter (m.sourceCall call)).total = (a.counter m).total +
      if classify m.sequenceWidth m.lastSequence
        (normalizeSequence call.sequence m.sequenceWidth) = some a then 1 else 0 := by
  obtain ⟨m', he, hw', hi', hl', ha⟩ := sourceCall_locked m call
  obtain ⟨-, -, -, hta⟩ :=
    recordTimestampLocked_sequence (m'.recordSequenceLocked call.sequence) call.timestampNs
  rw [he, hta, recordSequenceLocked_counts (hw' ▸ hw) (hi'.trans hi), hw', hl', ha]

theorem sourceCall_first {m : Metrics} (hi : m.sequenceInitialized = false) (call : SourceCall)
    (a : Anomaly) : a.counter (m.sourceCall call) = a.counter m := by
  obtain ⟨m', he, -, hi', -, ha⟩ := sourceCall_locked m call
  obtain ⟨-, -, -, hta⟩ :=
    recordTimestampLocked_sequence (m'.recordSequenceLocked call.sequence) call.timestampNs
  rw [he, hta, recordSequenceLocked_first (hi'.trans hi), ha]

def seen (width : SequenceWidth) (calls : List SourceCall) : List UInt64 :=
  calls.map fun call => normalizeSequence call.sequence width

/-- Each counter has counted the adjacent numbers of its class. -/
theorem sourceCalls_counts {w : SequenceWidth} (hw : w ≠ .kNone)
    (calls : List SourceCall) (a : Anomaly) :
    (a.counter (sourceCalls w calls)).total =
      (Adjacent.pairs (seen w calls)).countP fun x => classify w x.1 x.2 = some a := by
  cases calls with
  | nil => cases a <;> rfl
  | cons call calls =>
    obtain ⟨hw1, hi1, hl1⟩ := sourceCall_state (new w) call
    have hfirst : (a.counter ((new w).sourceCall call)).total = 0 := by
      rw [sourceCall_first rfl]
      cases a <;> rfl
    have hcount := Adjacent.count_foldl (g := sourceCall)
      (R := fun m => m.sequenceWidth = w ∧ m.sequenceInitialized = true)
      (q := lastSequence) (c := fun m => (a.counter m).total)
      (f := fun call => normalizeSequence call.sequence w)
      (p := fun last sequence => classify w last sequence = some a)
      (fun m call h => by
        obtain ⟨hsw, hsi, -⟩ := sourceCall_state m call
        rw [hsw, hsi, h.1]
        exact ⟨rfl, decide_eq_true hw⟩)
      (fun m call h => by rw [(sourceCall_state m call).2.2, h.1])
      (fun m call h => by
        have hm : m.sequenceWidth ≠ .kNone := h.1 ▸ hw
        rw [sourceCall_counts hm h.2, h.1])
      calls ((new w).sourceCall call) ⟨hw1, hi1.trans (decide_eq_true hw)⟩
    rw [hfirst, Nat.zero_add, hl1] at hcount
    exact hcount

end Metrics
end RoboBaton
