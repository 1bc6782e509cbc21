import Mathlib

/-! `PublicationRateMetrics`: the shared counters and, for each record function, the list of
its atomic accesses. A section of `source_mutex_` is one access. -/

namespace RoboBaton

/-- A `std::atomic<uint64_t>` that is only ever incremented, kept as the sum of its
increments. The cell holds that sum modulo 2^64. -/
structure Counter where
  total : Nat
  deriving DecidableEq, Repr

namespace Counter

def zero : Counter := ⟨0⟩

def load (c : Counter) : UInt64 := UInt64.ofNat c.total

def fetchAdd (c : Counter) (n : UInt64) : Counter := ⟨c.total + n.toNat⟩

@[simp] theorem zero_total : zero.total = 0 := rfl

@[simp] theorem fetchAdd_total (c : Counter) (n : UInt64) :
    (c.fetchAdd n).total = c.total + n.toNat := rfl

theorem toNat_load (c : Counter) (h : c.total < 2 ^ 64) : c.load.toNat = c.total := by
  simpa only [load, UInt64.toNat_ofNat'] using Nat.mod_eq_of_lt h

end Counter

inductive SequenceWidth where
  | kNone
  | k32Bit
  | k64Bit
  deriving DecidableEq, Repr

def uint32Max : UInt64 := 0xFFFFFFFF

def uint64Max : UInt64 := 0xFFFFFFFFFFFFFFFF

/-- `static_cast<uint32_t>`, read back as a 64-bit value. -/
def truncate32 (value : UInt64) : UInt64 := value &&& uint32Max

def expectedNext (sequence : UInt64) (width : SequenceWidth) : UInt64 :=
  if width = .k32Bit then truncate32 (truncate32 sequence + 1)
  else if sequence = uint64Max then 0 else sequence + 1

def normalizeSequence (sequence : UInt64) (width : SequenceWidth) : UInt64 :=
  if width = .k32Bit then truncate32 sequence else sequence

structure Metrics where
  sequenceWidth : SequenceWidth
  sequenceInitialized : Bool
  timestampInitialized : Bool
  lastSequence : UInt64
  lastTimestampNs : UInt64
  sourceCount : Counter
  publishCount : Counter
  auxiliaryPublishCount : Counter
  dropCount : Counter
  publishFailureCount : Counter
  sequenceGapCount : Counter
  sequenceDuplicateCount : Counter
  sequenceRegressionCount : Counter
  timestampDuplicateCount : Counter
  timestampRegressionCount : Counter
  publishLatencyCount : Counter
  publishLatencySumNs : Counter
  publishLatencyMaxNs : UInt64
  firstMonotonicNs : UInt64
  deriving DecidableEq, Repr

namespace Metrics

def new (width : SequenceWidth) : Metrics where
  sequenceWidth := width
  sequenceInitialized := false
  timestampInitialized := false
  lastSequence := 0
  lastTimestampNs := 0
  sourceCount := .zero
  publishCount := .zero
  auxiliaryPublishCount := .zero
  dropCount := .zero
  publishFailureCount := .zero
  sequenceGapCount := .zero
  sequenceDuplicateCount := .zero
  sequenceRegressionCount := .zero
  timestampDuplicateCount := .zero
  timestampRegressionCount := .zero
  publishLatencyCount := .zero
  publishLatencySumNs := .zero
  publishLatencyMaxNs := 0
  firstMonotonicNs := 0

def recordTimestampLocked (m : Metrics) (timestampNs : UInt64) : Metrics :=
  let m' :=
    if m.timestampInitialized then
      if timestampNs = m.lastTimestampNs then
        { m with timestampDuplicateCount := m.timestampDuplicateCount.fetchAdd 1 }
      else if timestampNs < m.lastTimestampNs then
        { m with timestampRegressionCount := m.timestampRegressionCount.fetchAdd 1 }
      else m
    else m
  { m' with timestampInitialized := true, lastTimestampNs := timestampNs }

/-- The classification of a sequence number against the last one. -/
def recordSequenceLocked (m : Metrics) (sequence : UInt64) : Metrics :=
  let normalized := normalizeSequence sequence m.sequenceWidth
  let m' :=
    if m.sequenceWidth ≠ .kNone ∧ m.sequenceInitialized = true then
      let expected := expectedNext m.lastSequence m.sequenceWidth
      if normalized = m.lastSequence then
        { m with sequenceDuplicateCount := m.sequenceDuplicateCount.fetchAdd 1 }
      else if normalized ≠ expected then
        let wrappedForward := m.sequenceWidth = .k32Bit ∧ m.lastSequence > uint32Max / 2 ∧
          normalized < uint32Max / 2
        if normalized > expected ∨ wrappedForward then
          { m with sequenceGapCount := m.sequenceGapCount.fetchAdd 1 }
        else
          { m with sequenceRegressionCount := m.sequenceRegressionCount.fetchAdd 1 }
      else m
    else m
  { m' with sequenceInitialized := m.sequenceWidth ≠ .kNone, lastSequence := normalized }

inductive Access where
  | setFirst (monotonicNs : UInt64)
  | addSource
  | lockedSource (sequence timestampNs : UInt64)
  | lockedTimestamp (timestampNs : UInt64)
  | addPublish
  | addLatencyCount
  | addLatencySum (latencyNs : UInt64)
  | loadLatencyMax (latencyNs : UInt64)
  | raiseLatencyMax (latencyNs expected : UInt64)
  | addAuxiliary
  | addDrop
  | addFailure
  deriving DecidableEq, Repr

/-- The loop head of `RecordPublishSuccess`: compare, and only then exchange. -/
def raiseLoop (latencyNs expected : UInt64) : List Access :=
  if latencyNs > expected then [.raiseLatencyMax latencyNs expected] else []

/-- One access, and the accesses it puts in front of the remaining ones. `spurious` is a
failure of `compare_exchange_weak` with equal values. -/
def Access.exec (spurious : Bool) (m : Metrics) : Access → Metrics × List Access
  | .setFirst monotonicNs =>
    (if m.firstMonotonicNs = 0 then { m with firstMonotonicNs := monotonicNs } else m, [])
  | .addSource => ({ m with sourceCount := m.sourceCount.fetchAdd 1 }, [])
  | .lockedSource sequence timestampNs =>
    ((m.recordSequenceLocked sequence).recordTimestampLocked timestampNs, [])
  | .lockedTimestamp timestampNs => (m.recordTimestampLocked timestampNs, [])
  | .addPublish => ({ m with publishCount := m.publishCount.fetchAdd 1 }, [])
  | .addLatencyCount => ({ m with publishLatencyCount := m.publishLatencyCount.fetchAdd 1 }, [])
  | .addLatencySum latencyNs =>
    ({ m with publishLatencySumNs := m.publishLatencySumNs.fetchAdd latencyNs }, [])
  | .loadLatencyMax latencyNs => (m, raiseLoop latencyNs m.publishLatencyMaxNs)
  | .raiseLatencyMax latencyNs expected =>
    if m.publishLatencyMaxNs = expected ∧ spurious = false then
      ({ m with publishLatencyMaxNs := latencyNs }, [])
    else
      (m, raiseLoop latencyNs m.publishLatencyMaxNs)
  | .addAuxiliary => ({ m with auxiliaryPublishCount := m.auxiliaryPublishCount.fetchAdd 1 }, [])
  | .addDrop => ({ m with dropCount := m.dropCount.fetchAdd 1 }, [])
  | .addFailure => ({ m with publishFailureCount := m.publishFailureCount.fetchAdd 1 }, [])

def setFirstMonotonic (monotonicNs : UInt64) : List Access :=
  if monotonicNs = 0 then [] else [.setFirst monotonicNs]

def recordSource (sequence timestampNs monotonicNs : UInt64) : List Access :=
  setFirstMonotonic monotonicNs ++ [.addSource, .lockedSource sequence timestampNs]

def recordSourceWithoutSequence (timestampNs monotonicNs : UInt64) : List Access :=
  setFirstMonotonic monotonicNs ++ [.addSource, .lockedTimestamp timestampNs]

def recordPublishSuccess (latencyNs : UInt64) : List Access :=
  [.addPublish, .addLatencyCount, .addLatencySum latencyNs, .loadLatencyMax latencyNs]

def recordAuxiliaryPublishSuccess : List Access := [.addAuxiliary]

def recordDrop : List Access := [.addDrop]

def recordPublishFailure : List Access := [.addFailure]

end Metrics
end RoboBaton
