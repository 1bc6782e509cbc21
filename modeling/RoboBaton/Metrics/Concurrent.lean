import RoboBaton.Metrics.Fields
import RoboBaton.Library.Threads

/-! Any number of threads that call the record functions of one `PublicationRateMetrics`,
interleaved at their atomic accesses, with the history of the calls. -/

namespace RoboBaton.Metrics
open Transition

inductive Call where
  | source (sequence timestampNs monotonicNs : UInt64)
  | sourceWithoutSequence (timestampNs monotonicNs : UInt64)
  | publishSuccess (latencyNs : UInt64)
  | auxiliaryPublishSuccess
  | drop
  | publishFailure
  deriving DecidableEq, Repr

namespace Call

def accesses : Call → List Access
  | .source sequence timestampNs monotonicNs => recordSource sequence timestampNs monotonicNs
  | .sourceWithoutSequence timestampNs monotonicNs =>
    recordSourceWithoutSequence timestampNs monotonicNs
  | .publishSuccess latencyNs => recordPublishSuccess latencyNs
  | .auxiliaryPublishSuccess => recordAuxiliaryPublishSuccess
  | .drop => recordDrop
  | .publishFailure => recordPublishFailure

def worth (f : Field) (c : Call) : Nat := f.pending c.accesses

end Call

/-- The object, the calls so far and those of them that have held `source_mutex_`, in the order
in which they did. -/
structure Log where
  metrics : Metrics
  calls : List Call
  locked : List Call

inductive Caller where
  | outside
  | inside (call : Call) (accesses : List Access)
  deriving DecidableEq, Repr

inductive CallerAct where
  | call (c : Call)
  | access (spurious : Bool)
  | returns
  deriving DecidableEq, Repr

def Access.locks : Access → Bool
  | .lockedSource .. | .lockedTimestamp .. => true
  | _ => false

def callerStep : CallerAct → Log → Caller → Option (Log × Caller)
  | .call c, s, .outside => some ({ s with calls := s.calls ++ [c] }, .inside c c.accesses)
  | .access spurious, s, .inside c (a :: as) =>
    let r := a.exec spurious s.metrics
    some ({ s with
      metrics := r.1
      locked := if a.locks then s.locked ++ [c] else s.locked }, .inside c (r.2 ++ as))
  | .returns, s, .inside _ [] => some (s, .outside)
  | _, _, _ => none

def recorders (ι : Type) (width : SequenceWidth) :
    Threads ι Log (fun _ => Caller) (fun _ => CallerAct) where
  shared := ⟨.new width, [], []⟩
  locals := fun _ => .outside
  step := fun _ => callerStep

inductive CallerStep (s : Log) : Caller → Log → Caller → Prop where
  | call (c : Call) :
    CallerStep s .outside { s with calls := s.calls ++ [c] } (.inside c c.accesses)
  | access (c : Call) (a : Access) (as : List Access) (spurious : Bool) :
    CallerStep s (.inside c (a :: as))
      { s with
        metrics := (a.exec spurious s.metrics).1
        locked := if a.locks then s.locked ++ [c] else s.locked }
      (.inside c ((a.exec spurious s.metrics).2 ++ as))
  | returns (c : Call) : CallerStep s (.inside c []) s .outside

theorem callerStep_cases {a : CallerAct} {s s' : Log} {l l' : Caller}
    (h : callerStep a s l = some (s', l')) : CallerStep s l s' l' := by
  unfold callerStep at h
  split at h
  · cases h
    exact .call _
  · cases h
    exact .access _ _ _ _
  · cases h
    exact .returns _
  · cases h

/-! ### What is left of a call -/

namespace Call

def isSource : Call → Bool
  | .source .. | .sourceWithoutSequence .. => true
  | _ => false

def latency? : Call → Option UInt64
  | .publishSuccess latencyNs => some latencyNs
  | _ => none

def monotonic? : Call → Option UInt64
  | .source _ _ monotonicNs | .sourceWithoutSequence _ monotonicNs => some monotonicNs
  | _ => none

def section? : Call → Option Access
  | .source sequence timestampNs _ => some (.lockedSource sequence timestampNs)
  | .sourceWithoutSequence timestampNs _ => some (.lockedTimestamp timestampNs)
  | _ => none

end Call

inductive Remains : Call → List Access → Prop where
  | none (c : Call) : Remains c []
  | setFirst {c : Call} {ns : UInt64} {a : Access} (hns : c.monotonic? = some ns) (hne : ns ≠ 0)
    (ha : c.section? = some a) : Remains c [.setFirst ns, .addSource, a]
  | addSource {c : Call} {a : Access} (ha : c.section? = some a) : Remains c [.addSource, a]
  | locked {c : Call} {a : Access} (ha : c.section? = some a) : Remains c [a]
  | addPublish (ns : UInt64) : Remains (.publishSuccess ns)
    [.addPublish, .addLatencyCount, .addLatencySum ns, .loadLatencyMax ns]
  | addLatencyCount (ns : UInt64) : Remains (.publishSuccess ns)
    [.addLatencyCount, .addLatencySum ns, .loadLatencyMax ns]
  | addLatencySum (ns : UInt64) :
    Remains (.publishSuccess ns) [.addLatencySum ns, .loadLatencyMax ns]
  | loadLatencyMax (ns : UInt64) : Remains (.publishSuccess ns) [.loadLatencyMax ns]
  | raiseLatencyMax {ns expected : UInt64} (hlt : expected < ns) :
    Remains (.publishSuccess ns) [.raiseLatencyMax ns expected]
  | addAuxiliary : Remains .auxiliaryPublishSuccess [.addAuxiliary]
  | addDrop : Remains .drop [.addDrop]
  | addFailure : Remains .publishFailure [.addFailure]

theorem remains_accesses (c : Call) : Remains c c.accesses := by
  have hsource : ∀ {c : Call} {ns : UInt64} {a : Access}, c.monotonic? = some ns →
      c.section? = some a → Remains c (setFirstMonotonic ns ++ [.addSource, a]) := by
    intro c ns a hns ha
    unfold setFirstMonotonic
    split
    · exact .addSource ha
    · rename_i hne
      exact .setFirst hns hne ha
  cases c with
  | source sequence timestampNs monotonicNs => exact hsource rfl rfl
  | sourceWithoutSequence timestampNs monotonicNs => exact hsource rfl rfl
  | publishSuccess latencyNs => exact .addPublish latencyNs
  | auxiliaryPublishSuccess => exact .addAuxiliary
  | drop => exact .addDrop
  | publishFailure => exact .addFailure

theorem remains_raiseLoop (ns expected : UInt64) :
    Remains (.publishSuccess ns) (raiseLoop ns expected) := by
  unfold raiseLoop
  split
  · rename_i hlt
    exact .raiseLatencyMax hlt
  · exact .none _

theorem section_cases {c : Call} {a : Access} (ha : c.section? = some a) :
    (∃ sequence ns, a = .lockedSource sequence ns) ∨ ∃ ns, a = .lockedTimestamp ns := by
  cases c with
  | source sequence timestampNs monotonicNs => exact .inl ⟨_, _, (Option.some.inj ha).symm⟩
  | sourceWithoutSequence timestampNs monotonicNs => exact .inr ⟨_, (Option.some.inj ha).symm⟩
  | _ => cases ha

theorem Remains.exec {c : Call} {a : Access} {as : List Access} (h : Remains c (a :: as))
    (spurious : Bool) (m : Metrics) : Remains c ((a.exec spurious m).2 ++ as) := by
  cases h with
  | setFirst hns hne ha => exact .addSource ha
  | addSource ha => exact .locked ha
  | locked ha =>
    obtain ⟨_, _, rfl⟩ | ⟨_, rfl⟩ := section_cases ha
    · exact .none _
    · exact .none _
  | addPublish ns => exact .addLatencyCount ns
  | addLatencyCount ns => exact .addLatencySum ns
  | addLatencySum ns => exact .loadLatencyMax ns
  | loadLatencyMax ns =>
    rw [List.append_nil]
    exact remains_raiseLoop _ _
  | raiseLatencyMax hlt =>
    rw [List.append_nil, Access.exec]
    split
    · exact .none _
    · exact remains_raiseLoop _ _
  | addAuxiliary => exact .none _
  | addDrop => exact .none _
  | addFailure => exact .none _

/-! ### The maximum and the first time -/

structure Grows (m m' : Metrics) : Prop where
  total : ∀ f : Field, (f.counter m).total ≤ (f.counter m').total
  latencyMax : m.publishLatencyMaxNs ≤ m'.publishLatencyMaxNs
  first : m'.firstMonotonicNs = m.firstMonotonicNs ∨ m.firstMonotonicNs = 0

theorem grows_refl (m : Metrics) : Grows m m := ⟨fun _ => Nat.le_refl _, UInt64.le_refl _, .inl rfl⟩

def LatencyIn (m : Metrics) (c : Call) : Prop :=
  ∀ ns, c.latency? = some ns → ns ≤ m.publishLatencyMaxNs

def MonotonicIn (m : Metrics) (c : Call) : Prop :=
  ∀ ns, c.monotonic? = some ns → ns ≠ 0 → m.firstMonotonicNs ≠ 0

theorem latencyIn_of_none {m : Metrics} {c : Call} (h : c.latency? = none) : LatencyIn m c :=
  fun ns hns => absurd (h.symm.trans hns) (by simp)

theorem monotonicIn_of_none {m : Metrics} {c : Call} (h : c.monotonic? = none) :
    MonotonicIn m c := fun ns hns => absurd (h.symm.trans hns) (by simp)

theorem Grows.latencyIn {m m' : Metrics} {c : Call} (h : Grows m m') (hc : LatencyIn m c) :
    LatencyIn m' c := fun ns hns => UInt64.le_trans (hc ns hns) h.latencyMax

theorem Grows.monotonicIn {m m' : Metrics} {c : Call} (h : Grows m m') (hc : MonotonicIn m c) :
    MonotonicIn m' c := fun ns hns hne => by
  have hfirst := hc ns hns hne
  obtain he | hz := h.first
  · rwa [he]
  · exact absurd hz hfirst

structure Ahead (m : Metrics) (c : Call) (as : List Access) : Prop where
  latency : (∃ ns, .loadLatencyMax ns ∈ as ∨ ∃ expected, .raiseLatencyMax ns expected ∈ as) ∨
    LatencyIn m c
  monotonic : (∃ ns, .setFirst ns ∈ as) ∨ MonotonicIn m c

theorem ahead_accesses (m : Metrics) (c : Call) : Ahead m c c.accesses := by
  have hfirst : ∀ ns, (∃ ns', Access.setFirst ns' ∈ setFirstMonotonic ns) ∨ ns = 0 := fun ns => by
    unfold setFirstMonotonic
    split
    · rename_i hz
      exact .inr hz
    · exact .inl ⟨ns, List.mem_singleton_self _⟩
  have hsource : ∀ {c : Call} {ns : UInt64} (as : List Access), c.latency? = none →
      c.monotonic? = some ns → Ahead m c (setFirstMonotonic ns ++ as) := by
    intro c ns as hnone hns
    refine ⟨.inr fun ns' hns' => ?_, ?_⟩
    · rw [hnone] at hns'
      cases hns'
    · obtain ⟨ns', hmem⟩ | hz := hfirst ns
      · exact .inl ⟨ns', List.mem_append_left _ hmem⟩
      · refine .inr fun ns' hns' hne => absurd ?_ hne
        rw [hns] at hns'
        exact Option.some.inj hns' ▸ hz
  cases c with
  | source sequence timestampNs monotonicNs => exact hsource _ rfl rfl
  | sourceWithoutSequence timestampNs monotonicNs => exact hsource _ rfl rfl
  | publishSuccess latencyNs =>
    exact ⟨.inl ⟨latencyNs, .inl (by simp [Call.accesses, recordPublishSuccess])⟩,
      .inr (monotonicIn_of_none rfl)⟩
  | _ => exact ⟨.inr (latencyIn_of_none rfl), .inr (monotonicIn_of_none rfl)⟩

theorem Ahead.settled {m : Metrics} {c : Call} (h : Ahead m c []) :
    LatencyIn m c ∧ MonotonicIn m c :=
  ⟨h.latency.resolve_left (by simp), h.monotonic.resolve_left (by simp)⟩

theorem source_latency {c : Call} {a : Access} (ha : c.section? = some a) (m : Metrics) :
    LatencyIn m c := by
  intro ns hns
  cases c with
  | source sequence timestampNs monotonicNs => cases hns
  | sourceWithoutSequence timestampNs monotonicNs => cases hns
  | _ => cases ha

theorem section_exec {c : Call} {a : Access} (ha : c.section? = some a) (spurious : Bool)
    (m : Metrics) : (a.exec spurious m).1.publishLatencyMaxNs = m.publishLatencyMaxNs ∧
      (a.exec spurious m).1.firstMonotonicNs = m.firstMonotonicNs := by
  obtain ⟨sequence, ns, rfl⟩ | ⟨ns, rfl⟩ := section_cases ha
  · obtain ⟨h1, h2⟩ := recordTimestampLocked_rest (m.recordSequenceLocked sequence) ns
    obtain ⟨h3, h4⟩ := recordSequenceLocked_rest m sequence
    exact ⟨h1.trans h3, h2.trans h4⟩
  · exact recordTimestampLocked_rest m ns

theorem latency_raiseLoop (m : Metrics) (ns : UInt64) :
    (∃ ns', .loadLatencyMax ns' ∈ raiseLoop ns m.publishLatencyMaxNs ∨
        ∃ expected, .raiseLatencyMax ns' expected ∈ raiseLoop ns m.publishLatencyMaxNs) ∨
      LatencyIn m (.publishSuccess ns) := by
  unfold raiseLoop
  split
  · exact .inl ⟨ns, .inr ⟨_, List.mem_singleton_self _⟩⟩
  · rename_i hle
    exact .inr fun ns' hns' => Option.some.inj hns' ▸ UInt64.not_lt.mp hle

theorem Remains.ahead {c : Call} {a : Access} {as : List Access} (h : Remains c (a :: as))
    (spurious : Bool) {m : Metrics} (hahead : Ahead m c (a :: as)) :
    Grows m (a.exec spurious m).1 ∧
      Ahead (a.exec spurious m).1 c ((a.exec spurious m).2 ++ as) := by
  have htotal := le_exec spurious m a
  cases h with
  | @setFirst _ ns a hns hne ha =>
    refine ⟨⟨htotal, ?_, ?_⟩, .inr (source_latency ha _), .inr fun ns' _ _ => ?_⟩
    · simp only [Access.exec]
      split <;> exact UInt64.le_refl _
    · simp only [Access.exec]
      split
      · rename_i hz
        exact .inr hz
      · exact .inl rfl
    · simp only [Access.exec]
      split
      · exact hne
      · assumption
  | @addSource _ a ha =>
    refine ⟨⟨htotal, UInt64.le_refl _, .inl rfl⟩, .inr (source_latency ha _), .inr ?_⟩
    refine hahead.monotonic.resolve_left ?_
    obtain ⟨_, _, rfl⟩ | ⟨_, rfl⟩ := section_cases ha
    · simp
    · simp
  | locked ha =>
    obtain ⟨hmax, hfirst⟩ := section_exec ha spurious m
    have hgrows : Grows m (a.exec spurious m).1 := ⟨htotal, hmax ▸ UInt64.le_refl _, .inl hfirst⟩
    refine ⟨hgrows, .inr (source_latency ha _), .inr (hgrows.monotonicIn ?_)⟩
    refine hahead.monotonic.resolve_left ?_
    obtain ⟨_, _, rfl⟩ | ⟨_, rfl⟩ := section_cases ha
    · simp
    · simp
  | addPublish ns | addLatencyCount ns | addLatencySum ns =>
    exact ⟨⟨htotal, UInt64.le_refl _, .inl rfl⟩, .inl ⟨ns, .inl (by simp)⟩,
      .inr (monotonicIn_of_none rfl)⟩
  | loadLatencyMax ns =>
    rw [List.append_nil]
    exact ⟨grows_refl m, latency_raiseLoop m ns, .inr (monotonicIn_of_none rfl)⟩
  -- an exchange that fails leaves the loop ahead of the call
  | @raiseLatencyMax ns expected hlt =>
    rw [List.append_nil]
    simp only [Access.exec] at htotal ⊢
    split
    · rename_i hraise
      refine ⟨⟨?_, ?_, .inl rfl⟩, .inr fun ns' hns' => ?_, .inr (monotonicIn_of_none rfl)⟩
      · intro f
        cases f <;> exact Nat.le_refl _
      · show m.publishLatencyMaxNs ≤ ns
        rw [hraise.1]
        exact UInt64.le_of_lt hlt
      · exact Option.some.inj hns' ▸ UInt64.le_refl _
    · exact ⟨grows_refl m, latency_raiseLoop m ns, .inr (monotonicIn_of_none rfl)⟩
  | addAuxiliary | addDrop | addFailure =>
    exact ⟨⟨htotal, UInt64.le_refl _, .inl rfl⟩, .inr (latencyIn_of_none rfl),
      .inr (monotonicIn_of_none rfl)⟩

theorem Remains.values {c : Call} {a : Access} {as : List Access} (h : Remains c (a :: as))
    (spurious : Bool) (m : Metrics) :
    ((a.exec spurious m).1.publishLatencyMaxNs = m.publishLatencyMaxNs ∨
      c.latency? = some (a.exec spurious m).1.publishLatencyMaxNs) ∧
    ((a.exec spurious m).1.firstMonotonicNs = m.firstMonotonicNs ∨
      c.monotonic? = some (a.exec spurious m).1.firstMonotonicNs) := by
  cases h with
  | setFirst hns hne ha =>
    simp only [Access.exec]
    split
    · exact ⟨.inl rfl, .inr hns⟩
    · exact ⟨.inl rfl, .inl rfl⟩
  | locked ha =>
    obtain ⟨hmax, hfirst⟩ := section_exec ha spurious m
    exact ⟨.inl hmax, .inl hfirst⟩
  | raiseLatencyMax hlt =>
    simp only [Access.exec]
    split
    · exact ⟨.inr rfl, .inl rfl⟩
    · exact ⟨.inl rfl, .inl rfl⟩
  | _ => exact ⟨.inl rfl, .inl rfl⟩

/-! ### The order of the sections -/

/-- The part of the object that `source_mutex_` guards. -/
def history (m : Metrics) : Metrics :=
  { new m.sequenceWidth with
    sequenceInitialized := m.sequenceInitialized
    timestampInitialized := m.timestampInitialized
    lastSequence := m.lastSequence
    lastTimestampNs := m.lastTimestampNs
    sequenceGapCount := m.sequenceGapCount
    sequenceDuplicateCount := m.sequenceDuplicateCount
    sequenceRegressionCount := m.sequenceRegressionCount
    timestampDuplicateCount := m.timestampDuplicateCount
    timestampRegressionCount := m.timestampRegressionCount }

def perform (m : Metrics) (c : Call) : Metrics :=
  c.accesses.foldl (fun m a => (a.exec false m).1) m

def sequential (width : SequenceWidth) (order : List Call) : Metrics :=
  order.foldl perform (new width)

theorem history_recordTimestampLocked (m : Metrics) (timestampNs : UInt64) :
    (m.recordTimestampLocked timestampNs).history =
      m.history.recordTimestampLocked timestampNs := by
  have hbody : ∀ m' : Metrics, history { m' with
      timestampInitialized := true, lastTimestampNs := timestampNs } = { history m' with
      timestampInitialized := true, lastTimestampNs := timestampNs } := fun _ => rfl
  unfold recordTimestampLocked
  dsimp only
  rw [hbody, apply_ite history, apply_ite history, apply_ite history]
  rfl

theorem history_recordSequenceLocked (m : Metrics) (sequence : UInt64) :
    (m.recordSequenceLocked sequence).history = m.history.recordSequenceLocked sequence := by
  have hbody : ∀ (m' : Metrics) (i : Bool) (l : UInt64), history { m' with
      sequenceInitialized := i, lastSequence := l } = { history m' with
      sequenceInitialized := i, lastSequence := l } := fun _ _ _ => rfl
  unfold recordSequenceLocked
  dsimp only
  rw [hbody, apply_ite history, apply_ite history, apply_ite history, apply_ite history]
  rfl

theorem history_exec (spurious : Bool) (m : Metrics) (a : Access) :
    (a.exec spurious m).1.history =
      if a.locks then (a.exec false m.history).1 else m.history := by
  cases a with
  | lockedSource sequence timestampNs =>
    show (recordTimestampLocked _ _).history = _
    rw [history_recordTimestampLocked, history_recordSequenceLocked]
    rfl
  | lockedTimestamp timestampNs => exact history_recordTimestampLocked m timestampNs
  | setFirst monotonicNs =>
    simp only [Access.exec]
    split <;> rfl
  | raiseLatencyMax latencyNs expected =>
    simp only [Access.exec]
    split <;> rfl
  | _ => rfl

theorem history_perform {c : Call} {a : Access} (ha : c.section? = some a) (m : Metrics) :
    (perform m c).history = (a.exec false m.history).1 := by
  have hfirst : ∀ ns, ((setFirstMonotonic ns).foldl (fun m a => (a.exec false m).1) m).history =
      m.history := fun ns => by
    unfold setFirstMonotonic
    split
    · rfl
    · exact history_exec false m _
  have hcall : ∀ {ns : UInt64}, c.accesses = setFirstMonotonic ns ++ [.addSource, a] →
      (perform m c).history = (a.exec false m.history).1 := fun {ns} hc => by
    rw [perform, hc, List.foldl_append, List.foldl_cons, List.foldl_cons, List.foldl_nil,
      history_exec, history_exec, hfirst]
    obtain ⟨_, _, rfl⟩ | ⟨_, rfl⟩ := section_cases ha
    · rfl
    · rfl
  cases c with
  | source sequence timestampNs monotonicNs =>
    cases ha
    exact hcall rfl
  | sourceWithoutSequence timestampNs monotonicNs =>
    cases ha
    exact hcall rfl
  | _ => cases ha

theorem isSource_of_section {c : Call} {a : Access} (ha : c.section? = some a) :
    c.isSource = true := by
  cases c with
  | source sequence timestampNs monotonicNs => rfl
  | sourceWithoutSequence timestampNs monotonicNs => rfl
  | _ => cases ha

theorem Remains.locks {c : Call} {a : Access} {as : List Access} (h : Remains c (a :: as))
    (spurious : Bool) (m : Metrics) :
    (a.locks = true → c.section? = some a ∧ c.isSource = true ∧
      (a.exec spurious m).2 ++ as = []) ∧
    (a.locks = false → ((a.exec spurious m).2 ++ as).any Access.locks = as.any Access.locks) := by
  have hloop : ∀ ns expected, (raiseLoop ns expected).any Access.locks = false := fun ns e => by
    unfold raiseLoop
    split <;> rfl
  cases h with
  | locked ha =>
    obtain ⟨_, _, rfl⟩ | ⟨_, rfl⟩ := section_cases ha
    · exact ⟨fun _ => ⟨ha, isSource_of_section ha, rfl⟩, by simp [Access.locks]⟩
    · exact ⟨fun _ => ⟨ha, isSource_of_section ha, rfl⟩, by simp [Access.locks]⟩
  | loadLatencyMax ns =>
    rw [List.append_nil]
    exact ⟨by simp [Access.locks], fun _ => hloop _ _⟩
  | raiseLatencyMax hlt =>
    rw [List.append_nil, Access.exec]
    refine ⟨by simp [Access.locks], fun _ => ?_⟩
    split
    · rfl
    · exact hloop _ _
  | _ => exact ⟨by simp [Access.locks], fun _ => rfl⟩

theorem locks_accesses {c : Call} (hc : c.isSource = true) : c.accesses.any Access.locks = true := by
  cases c with
  | source sequence timestampNs monotonicNs =>
    simp [Call.accesses, recordSource, Access.locks]
  | sourceWithoutSequence timestampNs monotonicNs =>
    simp [Call.accesses, recordSourceWithoutSequence, Access.locks]
  | _ => cases hc

end RoboBaton.Metrics
