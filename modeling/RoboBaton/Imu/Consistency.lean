import RoboBaton.Imu.Dispatch
import RoboBaton.Imu.RateLog

/-! What a snapshot of the IMU core can rely on although it is taken without a lock: each
sample is counted on arrival before it is admitted, and counted again by the publisher only
after that. -/

namespace RoboBaton.Imu
open Metrics Transition
variable {P : Type}

/-! ### The publisher's counters -/

def stamps : Access → ℕ
  | .lockedSource _ _ => 1
  | .lockedTimestamp _ => 1
  | _ => 0

def Stamped (m : Metrics) (n : ℕ) : Prop :=
  (m.timestampInitialized = false ∧ m.totals .timestampDuplicate = 0 ∧
      m.totals .timestampRegression = 0) ∨
    m.totals .timestampDuplicate + m.totals .timestampRegression < n

theorem Stamped.recordTimestampLocked {m : Metrics} {n : ℕ} (h : Stamped m n)
    (timestampNs : UInt64) : Stamped (m.recordTimestampLocked timestampNs) (n + 1) := by
  right
  simp only [Metrics.recordTimestampLocked, Metrics.totals, Field.counter]
  obtain ⟨hinit, hdup, hreg⟩ | hlt := h
  · simp only [Metrics.totals, Field.counter] at hdup hreg
    simp [hinit, hdup, hreg]
  · simp only [Metrics.totals, Field.counter] at hlt
    split_ifs
    · simp only [Counter.fetchAdd_total, UInt64.toNat_one]
      omega
    · simp only [Counter.fetchAdd_total, UInt64.toNat_one]
      omega
    · exact Nat.lt_succ_of_lt hlt
    · exact Nat.lt_succ_of_lt hlt

theorem Stamped.congr {m m' : Metrics} {n : ℕ} (h : Stamped m n)
    (hinit : m'.timestampInitialized = m.timestampInitialized)
    (hdup : m'.totals .timestampDuplicate = m.totals .timestampDuplicate)
    (hreg : m'.totals .timestampRegression = m.totals .timestampRegression) : Stamped m' n := by
  rw [Stamped, hinit, hdup, hreg]
  exact h

theorem Stamped.recordSequenceLocked {m : Metrics} {n : ℕ} (h : Stamped m n)
    (sequence : UInt64) : Stamped (m.recordSequenceLocked sequence) n := by
  refine h.congr ?_ ?_ ?_
  all_goals
    unfold Metrics.recordSequenceLocked
    dsimp only [Metrics.totals, Field.counter]
    split_ifs <;> rfl

theorem Stamped.exec {m : Metrics} {n : ℕ} (h : Stamped m n) (spurious : Bool) (a : Access) :
    Stamped (a.exec spurious m).1 (n + stamps a) := by
  cases a with
  | lockedSource sequence timestampNs =>
    exact (h.recordSequenceLocked sequence).recordTimestampLocked timestampNs
  | lockedTimestamp timestampNs => exact h.recordTimestampLocked timestampNs
  | setFirst monotonicNs =>
    simp only [Access.exec]
    split <;> exact h
  | raiseLatencyMax latencyNs expected =>
    simp only [Access.exec]
    split <;> exact h
  | _ => exact h

theorem stamps_exec (spurious : Bool) (m : Metrics) (a : Access) :
    ((a.exec spurious m).2.map stamps).sum = 0 := by
  have hloop : ∀ latencyNs expected, ((raiseLoop latencyNs expected).map stamps).sum = 0 := by
    intro latencyNs expected
    unfold raiseLoop
    split <;> rfl
  cases a with
  | loadLatencyMax latencyNs => exact hloop _ _
  | raiseLatencyMax latencyNs expected =>
    simp only [Access.exec]
    split
    · rfl
    · exact hloop _ _
  | _ => rfl

namespace PublisherPc

/-- What the publisher may still add: a pending record adds `w` of its accesses, and `base`
is for the points outside of records. -/
def credit (w : List Access → ℕ) (base : PublisherPc P → ℕ) : PublisherPc P → ℕ
  | .record as then_ => w as + credit w base then_
  | pc => base pc

def publishes : PublisherPc P → ℕ := credit Field.publish.pending fun
  | .callSink _ | .stampImu | .publishImu => 1
  | _ => 0

def failures : PublisherPc P → ℕ := credit Field.failure.pending fun
  | .closeAdmission | .storeFailed | .exchangeNotified | .callNotifier | .finished => 0
  | _ => 1

def stamping : PublisherPc P → ℕ := credit (fun as => (as.map stamps).sum) fun _ => 0

end PublisherPc

structure Counted (s : Core P) (pc : PublisherPc P) : Prop where
  publish : s.metrics.totals .publish + pc.publishes ≤ s.taken
  failure : s.metrics.totals .failure + pc.failures ≤ 1
  stamped : ∃ n, Stamped s.metrics n ∧ n + pc.stamping ≤ s.taken

section Publisher
variable {s s' : Core P} {pc pc' : PublisherPc P}

def lighter (pc pc' : PublisherPc P) : Bool :=
  pc'.publishes.ble pc.publishes && pc'.failures.ble pc.failures && pc'.stamping.ble pc.stamping

theorem lighter_iff : lighter pc pc' = true ↔
    pc'.publishes ≤ pc.publishes ∧ pc'.failures ≤ pc.failures ∧ pc'.stamping ≤ pc.stamping := by
  simp only [lighter, Bool.and_eq_true, Nat.ble_eq, and_assoc]

theorem Counted.move (h : Counted s pc) (hm : s'.metrics = s.metrics) (ht : s'.taken = s.taken)
    (hpc : lighter pc pc' = true) : Counted s' pc' := by
  obtain ⟨n, hn, hle⟩ := h.stamped
  obtain ⟨hp, hf, hs⟩ := lighter_iff.mp hpc
  refine ⟨?_, ?_, n, hm ▸ hn, ?_⟩
  · rw [hm, ht]
    exact (Nat.add_le_add_left hp _).trans h.publish
  · rw [hm]
    exact (Nat.add_le_add_left hf _).trans h.failure
  · rw [ht]
    exact (Nat.add_le_add_left hs _).trans hle

theorem credit_recordIf (w : List Access → ℕ) (base : PublisherPc P → ℕ) (s : Core P)
    (as : List Access) (then_ : PublisherPc P) :
    PublisherPc.credit w base (recordIf s as then_) ≤ w as + PublisherPc.credit w base then_ := by
  unfold recordIf
  split
  · exact le_rfl
  · exact Nat.le_add_left _ _

theorem lighter_recordIf (s : Core P) {as : List Access} {then_ : PublisherPc P}
    (h : lighter pc (.record as then_) = true) : lighter pc (recordIf s as then_) = true := by
  obtain ⟨hp, hf, hs⟩ := lighter_iff.mp h
  exact lighter_iff.mpr ⟨(credit_recordIf _ _ s as then_).trans hp,
    (credit_recordIf _ _ s as then_).trans hf, (credit_recordIf _ _ s as then_).trans hs⟩

theorem Counted.exec {a : Access} {as : List Access} (spurious : Bool)
    (h : Counted s (.record (a :: as) pc)) :
    Counted { s with metrics := (a.exec spurious s.metrics).1 }
      (.record ((a.exec spurious s.metrics).2 ++ as) pc) := by
  obtain ⟨hp, hpending⟩ := counter_exec spurious s.metrics a (f := .publish) rfl
  obtain ⟨hf, hfailing⟩ := counter_exec spurious s.metrics a (f := .failure) rfl
  have hpublish : s.metrics.totals .publish +
      (Field.publish.amount a + Field.publish.pending as + pc.publishes) ≤ s.taken := h.publish
  have hfailure : s.metrics.totals .failure +
      (Field.failure.amount a + Field.failure.pending as + pc.failures) ≤ 1 := h.failure
  obtain ⟨n, hn, hle⟩ := h.stamped
  have hstamps : n + (stamps a + (as.map stamps).sum + pc.stamping) ≤ s.taken := hle
  refine ⟨?_, ?_, n + stamps a, hn.exec spurious a, ?_⟩
  · show (Field.publish.counter _).total +
      (Field.publish.pending (_ ++ as) + pc.publishes) ≤ s.taken
    rw [hp, Field.pending_append, hpending]
    simp only [Metrics.totals] at hpublish
    omega
  · show (Field.failure.counter _).total +
      (Field.failure.pending (_ ++ as) + pc.failures) ≤ 1
    rw [hf, Field.pending_append, hfailing]
    simp only [Metrics.totals] at hfailure
    omega
  · show n + stamps a + (List.sum (List.map stamps (_ ++ as)) + pc.stamping) ≤ s.taken
    rw [List.map_append, List.sum_append, stamps_exec]
    omega

theorem Counted.take {read : BitVec 64} {pending : PendingSample P}
    (h : Counted s (.storeRead read pending))
    (ring : WrapRing.Ring (PendingSample P) 64 kPendingCapacity) :
    Counted { s with ring := ring, taken := s.taken + 1 }
      (recordIf s (recordSourceWithoutSequence pending.sample.sampleTimestampNs pending.arrivalNs)
        (.callSink pending)) := by
  generalize hsource : recordSourceWithoutSequence pending.sample.sampleTimestampNs
    pending.arrivalNs = source
  have hweights : Field.publish.pending source = 0 ∧ Field.failure.pending source = 0 ∧
      (source.map stamps).sum = 1 := by
    rw [← hsource, recordSourceWithoutSequence, setFirstMonotonic]
    split <;> exact ⟨rfl, rfl, rfl⟩
  obtain ⟨hp, hf, hs⟩ := hweights
  have hpublishes : (recordIf s source (.callSink pending)).publishes ≤ 0 + 1 :=
    hp ▸ credit_recordIf _ _ s source _
  have hfailures : (recordIf s source (.callSink pending)).failures ≤ 0 + 1 :=
    hf ▸ credit_recordIf _ _ s source _
  have hstamping : (recordIf s source (.callSink pending)).stamping ≤ 1 + 0 :=
    hs ▸ credit_recordIf _ _ s source _
  obtain ⟨n, hn, hle⟩ := h.stamped
  have hle : n ≤ s.taken := hle
  exact ⟨Nat.add_le_add h.publish hpublishes, (Nat.add_le_add_left hfailures _).trans h.failure,
    n, hn, Nat.add_le_add hle hstamping⟩

theorem publishLoop_counted {t : Bool} {a : PublisherAct} (h : Counted s pc)
    (hstep : publishLoop t a s pc = some (s', pc')) : Counted s' pc' := by
  cases publishLoop_step hstep with
  | storeRead read pending => exact h.take _
  | access spurious access accesses then_ => exact h.exec spurious
  | recorded =>
    exact h.move rfl rfl (lighter_iff.mpr
      ⟨Nat.le_add_left _ _, Nat.le_add_left _ _, Nat.le_add_left _ _⟩)
  | publishImu | throwPublish | publishTemperature | throwTemperature =>
    exact h.move rfl rfl (lighter_recordIf s rfl)
  | _ => exact h.move rfl rfl rfl

theorem lighter_refl (pc : PublisherPc P) : lighter pc pc = true :=
  lighter_iff.mpr ⟨le_rfl, le_rfl, le_rfl⟩

theorem reachable_counted [Inhabited P] {t : Bool} {s : State P} (h : (threads P t).Reachable s) :
    Counted s.shared (s.locals .publisher) := by
  refine Threads.Reachable.focus (T := threads P t) (i := .publisher) (J := Counted) ?_ ?_ ?_ h
  · exact ⟨Nat.zero_le _, le_rfl, 0, .inl ⟨rfl, rfl, rfl⟩, le_rfl⟩
  · intro s a s' l' _ hJ hst
    exact publishLoop_counted hJ (threads_publisher hst).2
  · intro s j a s' l' hj _ hJ hst
    cases j with
    | owner =>
      exact hJ.move (ownerStep_totals hst).1 (ownerStep_dispatch hst).2.2.1 (lighter_refl _)
    | producer =>
      exact hJ.move (sampleTrampoline_totals hst).1 (sampleTrampoline_dispatch hst).1
        (lighter_refl _)
    | publisher => exact absurd rfl hj

end Publisher

/-! ### The count of arrivals -/

def ProducerPc.admitting : ProducerPc P → ℕ
  | .loadAdmission sample _ => if wellFormed sample then 1 else 0
  | .loadWrite _ | .loadRead _ _ | .fillSlot _ _ | .storeWrite _ _ => 1
  | _ => 0

structure Arrived (s : Core P) (pc : ProducerPc P) : Prop where
  unstarted : s.driver.startCalled = true ∨ s.admitted = [] ∧ pc = .idle
  claimed : s.metricsEnabled = true → s.startClaimed = true
  admitted : s.metricsEnabled = true → s.admitted.length + pc.admitting ≤ s.sourceCount.total

section Arrivals
variable {s s' : Core P} {pc pc' : ProducerPc P}

theorem sampleTrampoline_arrived {a : ProducerAct P} (h : Arrived s pc)
    (hstep : sampleTrampoline a s pc = some (s', pc')) : Arrived s' pc' := by
  obtain ⟨hunstarted, hclaimed, hadmitted⟩ := h
  have hstarted : pc ≠ .idle → s.driver.startCalled = true := fun hne =>
    hunstarted.resolve_right fun hidle => hne hidle.2
  cases sampleTrampoline_step hstep with
  | enterCounted sample nowNs hcalled => exact ⟨.inl hcalled, hclaimed, hadmitted⟩
  | enter sample nowNs hcalled hrunning hplain =>
    refine ⟨.inl hcalled, hclaimed, fun henabled => ?_⟩
    simpa [ProducerPc.admitting, hplain henabled] using hadmitted henabled
  | addSourceCount sample arrivalNs =>
    refine ⟨.inl (hstarted nofun), hclaimed, fun henabled => ?_⟩
    have hle : s.admitted.length + 0 ≤ s.sourceCount.total := hadmitted henabled
    have hone : (ProducerPc.loadAdmission sample arrivalNs).admitting ≤ 1 := by
      simp only [ProducerPc.admitting]
      split <;> decide
    simp only [Counter.fetchAdd_total, UInt64.toNat_one]
    omega
  | admitted sample arrivalNs hopen hsize =>
    refine ⟨.inl (hstarted nofun), hclaimed, fun henabled => ?_⟩
    have hle := hadmitted henabled
    rwa [ProducerPc.admitting, if_pos hsize] at hle
  | refuse | malformed | full =>
    exact ⟨.inl (hstarted nofun), hclaimed, fun henabled =>
      (Nat.le_add_right _ _).trans (hadmitted henabled)⟩
  | storeWrite pending write =>
    refine ⟨.inl (hstarted nofun), hclaimed, fun henabled => ?_⟩
    have hle : s.admitted.length + 1 ≤ s.sourceCount.total := hadmitted henabled
    show (s.admitted ++ [pending]).length + 0 ≤ s.sourceCount.total
    rwa [List.length_append]
  | _ => exact ⟨.inl (hstarted nofun), hclaimed, hadmitted⟩

theorem exec_claim {rest ops : List OwnerOp} {op : OwnerOp} {r : Reply}
    (h : op.exec s rest r = some (s', ops)) :
    (s.driver.startCalled = true → s'.driver.startCalled = true) ∧
      (s.startClaimed = true → s'.startClaimed = true) ∧
      (s'.metricsEnabled = s.metricsEnabled ∨ s.startClaimed = false ∧ s'.startClaimed = true) := by
  cases exec_step h with
  | claim config sink notifier hclaim => exact ⟨id, fun _ => rfl, .inr ⟨hclaim, rfl⟩⟩
  | driverStart => exact ⟨fun _ => rfl, id, .inl rfl⟩
  | _ => exact ⟨id, id, .inl rfl⟩

theorem owner_arrived {a : OwnerAct} {l l' : OwnerLocal} (hL : Ledger s) (h : Arrived s pc)
    (hstep : ownerStep a s l = some (s', l')) : Arrived s' pc := by
  obtain ⟨rfl, -⟩ | ⟨op, ops, r, -, he, -⟩ := ownerStep_cases hstep
  · exact h
  · obtain ⟨hcalled, hclaim, henabled⟩ := exec_claim he
    obtain ⟨-, hadmitted, -⟩ := exec_dispatch he
    obtain ⟨-, hsource, -⟩ := exec_totals he
    obtain hsame | ⟨hunclaimed, hclaimed⟩ := henabled
    · refine ⟨h.unstarted.imp hcalled fun hidle => ⟨hadmitted ▸ hidle.1, hidle.2⟩, ?_, ?_⟩
      · rw [hsame]
        exact fun henabled => hclaim (h.claimed henabled)
      · rw [hsame, hadmitted, hsource]
        exact h.admitted
    · -- nothing has arrived before the core is claimed
      have hnot : s.driver.startCalled = false :=
        hL.startCalled.trans (hL.unclaimed hunclaimed).2.2.1
      obtain ⟨hnone, rfl⟩ := h.unstarted.resolve_left (by simp [hnot])
      refine ⟨.inr ⟨hadmitted ▸ hnone, rfl⟩, fun _ => hclaimed, fun _ => ?_⟩
      rw [hadmitted, hnone]
      exact Nat.zero_le _

theorem reachable_arrived [Inhabited P] {t : Bool} {s : State P} (h : (threads P t).Reachable s) :
    Arrived s.shared (s.locals .producer) := by
  refine Threads.Reachable.focus (T := threads P t) (i := .producer) (J := Arrived) ?_ ?_ ?_ h
  · exact ⟨.inr ⟨rfl, rfl⟩, nofun, fun _ => le_rfl⟩
  · intro s a s' l' _ hJ hst
    exact sampleTrampoline_arrived hJ hst
  · intro s j a s' l' hj hs hJ hst
    cases j with
    | owner => exact owner_arrived (reachable_owner hs).1 hJ hst
    | producer => exact absurd rfl hj
    | publisher =>
      have hstep := (threads_publisher hst).2
      obtain ⟨hf, -⟩ := publishLoop_frame hstep
      obtain ⟨hunstarted, hclaimed, hadmitted⟩ := hJ
      refine ⟨?_, ?_, ?_⟩
      · rw [hf.startCalled, (publishLoop_dispatch hstep).1]
        exact hunstarted
      · rw [hf.metricsEnabled, hf.startClaimed]
        exact hclaimed
      · rw [hf.metricsEnabled, (publishLoop_dispatch hstep).1, (publishLoop_totals hstep).2.1]
        exact hadmitted

end Arrivals

/-! ### Callers of Snapshot -/

/-- The caller of `Snapshot` that is under way, the snapshots returned so far, and the history
of the arrival times in the order in which they were counted. -/
structure Caller where
  pc : Option (PublicationRateSnapshot × List SnapshotOp)
  returned : List PublicationRateSnapshot
  counted : List UInt64

def callSnapshot : RateAct → State P → Caller → Option Caller
  | .snapshot nowNs, s, ⟨none, returned, counted⟩ =>
    if s.shared.metricsEnabled then
      some ⟨some (snapshotAt nowNs, snapshot s.shared.metricsEnabled), returned, counted⟩
    else none
  | .step, s, ⟨some (value, op :: ops), returned, counted⟩ =>
    some ⟨some (op.exec s.shared value, ops), returned, counted⟩
  | .step, _, ⟨some (value, []), returned, counted⟩ => some ⟨none, returned ++ [value], counted⟩
  | _, _, _ => none

def countArrival (a : ProducerAct P) (pc : ProducerPc P) (counted : List UInt64) : List UInt64 :=
  match a, pc with
  | .step, .addSourceCount _ arrivalNs => counted ++ [arrivalNs]
  | _, _ => counted

theorem countArrival_append (a : ProducerAct P) (pc : ProducerPc P) (counted : List UInt64) :
    ∃ more, countArrival a pc counted = counted ++ more := by
  unfold countArrival
  split
  · exact ⟨_, rfl⟩
  · exact ⟨[], (List.append_nil _).symm⟩

def watchArrivals (e : Σ i, Act P i) (s : State P) (w : Caller) : Caller :=
  match e with
  | ⟨.producer, a⟩ => { w with counted := countArrival a (s.locals .producer) w.counted }
  | _ => w

def snapshotCaller : Observer (State P) (Σ i, Act P i) Caller RateAct where
  start := ⟨none, [], []⟩
  watch := watchArrivals
  act := callSnapshot

variable (P) in
def snapshotSystem [Inhabited P] (t : Bool) :
    System (State P × Caller) ((Σ i, Act P i) ⊕ RateAct) :=
  (threads P t).toSystem.observed snapshotCaller

structure Fits (value : PublicationRateSnapshot) : Prop where
  publish : value.count .publish ≤ value.count .source
  failure : value.count .failure ≤ 1
  anomalies : 0 < value.count .source →
    value.counts .timestampDuplicate + value.counts .timestampRegression < value.counts .source
  noAnomalies : value.count .source = 0 →
    value.count .timestampDuplicate = 0 ∧ value.count .timestampRegression = 0

structure Consistent (counted : List UInt64) (value : PublicationRateSnapshot) : Prop
    extends Fits value where
  start : 0 < value.count .source → value.intervalStartMonotonicNs ≠ 0 ∧
    counted.head? = some value.intervalStartMonotonicNs

/-! ### The first arrival -/

structure Arrivals (s : Core P) (pc : ProducerPc P) (counted : List UInt64) : Prop where
  length : counted.length = s.sourceCount.total
  head : ∀ ns, counted.head? = some ns → s.sourceFirstNs = ns
  storing : ∀ sample ns, pc = .storeSourceFirst sample ns → counted = []
  adding : ∀ sample ns, pc = .addSourceCount sample ns → counted = [] → s.sourceFirstNs = ns

section First
variable {s s' : Core P} {pc pc' : ProducerPc P} {counted : List UInt64}

theorem Arrivals.producer {a : ProducerAct P} (h : Arrivals s pc counted)
    (hbound : s.sourceCount.total < 2 ^ 64)
    (hstep : sampleTrampoline a s pc = some (s', pc')) :
    Arrivals s' pc' (countArrival a pc counted) := by
  obtain ⟨hlength, hhead, hstoring, hadding⟩ := h
  have hload : s.sourceCount.load = 0 ↔ counted = [] := by
    rw [← List.length_eq_zero_iff, hlength, ← Counter.toNat_load _ hbound]
    exact ⟨fun h => by rw [h]; rfl, fun h => UInt64.toNat_inj.mp h⟩
  cases sampleTrampoline_step hstep with
  | firstSource sample arrivalNs hzero =>
    exact ⟨hlength, hhead, fun _ _ _ => hload.mp hzero, nofun⟩
  | laterSource sample arrivalNs hzero =>
    exact ⟨hlength, hhead, nofun, fun _ _ _ hnil => absurd (hload.mpr hnil) hzero⟩
  | storeSourceFirst sample arrivalNs =>
    have hnil : counted = [] := hstoring _ _ rfl
    refine ⟨hlength, fun ns hns => ?_, nofun, fun sample' ns hpc _ => ?_⟩
    · rw [hnil] at hns
      cases hns
    · cases hpc
      rfl
  | addSourceCount sample arrivalNs =>
    refine ⟨?_, fun ns hns => ?_, nofun, nofun⟩
    · simp [countArrival, hlength]
    · cases hcounted : counted with
      | nil =>
        subst hcounted
        cases hns
        exact hadding _ _ rfl rfl
      | cons first more =>
        subst hcounted
        exact hhead ns hns
  | _ => exact ⟨hlength, hhead, nofun, nofun⟩

theorem Arrivals.congr (h : Arrivals s pc counted) (hsource : s'.sourceCount = s.sourceCount)
    (hfirst : s'.sourceFirstNs = s.sourceFirstNs) : Arrivals s' pc counted := by
  obtain ⟨hlength, hhead, hstoring, hadding⟩ := h
  refine ⟨?_, ?_, hstoring, ?_⟩
  · rw [hsource]
    exact hlength
  · rw [hfirst]
    exact hhead
  · rw [hfirst]
    exact hadding

end First

/-! ### Snapshots under way -/

theorem enabled_step [Inhabited P] {t : Bool} {s : State P} {i : Thread} {a : Act P i}
    {s' : Core P} {l' : Local P i} (hs : (threads P t).Reachable s)
    (h : (threads P t).step i a s.shared (s.locals i) = some (s', l'))
    (henabled : s.shared.metricsEnabled = true) : s'.metricsEnabled = true := by
  rw [← henabled]
  cases i with
  | owner =>
    obtain ⟨he, -⟩ | ⟨op, ops, r, -, he, -⟩ := ownerStep_cases h
    · rw [he]
    · exact exec_metricsEnabled (.inl ((reachable_arrived hs).claimed henabled)) he
  | producer => exact (sampleTrampoline_frame h).1.metricsEnabled
  | publisher => exact (publisher_step_running h).1.metricsEnabled

theorem totals_fit [Inhabited P] {t : Bool} {s : State P} (hs : (threads P t).Reachable s)
    (henabled : s.shared.metricsEnabled = true) :
    totals s.shared .publish ≤ totals s.shared .source ∧ totals s.shared .failure ≤ 1 ∧
      (totals s.shared .timestampDuplicate + totals s.shared .timestampRegression = 0 ∨
        totals s.shared .timestampDuplicate + totals s.shared .timestampRegression <
          totals s.shared .source) := by
  obtain ⟨hpublish, hfailure, n, hn, hle⟩ := reachable_counted hs
  have htaken : s.shared.taken ≤ s.shared.sourceCount.total :=
    (reachable_dispatch hs).1.taken_le.trans
      ((Nat.le_add_right _ _).trans ((reachable_arrived hs).admitted henabled))
  simp only [totals_source, totals_of_ne _ (show Field.publish ≠ .source by decide),
    totals_of_ne _ (show Field.failure ≠ .source by decide),
    totals_of_ne _ (show Field.timestampDuplicate ≠ .source by decide),
    totals_of_ne _ (show Field.timestampRegression ≠ .source by decide)]
  refine ⟨by omega, by omega, hn.imp (fun h => ?_) fun h => by omega⟩
  rw [h.2.1, h.2.2]

theorem fits_of_sampled {s : Core P} {value : PublicationRateSnapshot} (hbound : Unwrapped s)
    (hfit : totals s .publish ≤ totals s .source ∧ totals s .failure ≤ 1 ∧
      (totals s .timestampDuplicate + totals s .timestampRegression = 0 ∨
        totals s .timestampDuplicate + totals s .timestampRegression < totals s .source))
    (h : Sampled SnapshotOp.field 0 value.counts (totals s) [.sourceCount, .sourceFirst]) :
    Fits (SnapshotOp.sourceCount.exec s value) := by
  obtain ⟨hpublish, hfailure, hanomalies⟩ := hfit
  have hsource : (SnapshotOp.sourceCount.exec s value).counts .source = totals s .source :=
    (PublicationRateSnapshot.counts_setCount value .source _).trans
      (Counter.toNat_load _ (hbound .source))
  have hread : ∀ f, f ≠ .source →
      (SnapshotOp.sourceCount.exec s value).counts f ≤ totals s f := fun f hf => by
    have hne : SnapshotOp.field .sourceCount ≠ some f := fun heq => hf (Option.some.inj heq).symm
    rw [SnapshotOp.exec_frame hne]
    refine (h f fun op hop heq => ?_).2
    obtain rfl | hop := List.mem_cons.mp hop
    · exact hne heq
    · obtain rfl := List.mem_singleton.mp hop
      cases heq
  have h1 := hread .publish nofun
  have h2 := hread .failure nofun
  have h3 := hread .timestampDuplicate nofun
  have h4 := hread .timestampRegression nofun
  generalize SnapshotOp.sourceCount.exec s value = v at *
  simp only [PublicationRateSnapshot.counts] at hsource h1 h2 h3 h4
  constructor
  · rw [UInt64.le_iff_toNat_le]
    omega
  · rw [UInt64.le_iff_toNat_le]
    exact h2.trans hfailure
  · intro hpos
    rw [UInt64.lt_iff_toNat_lt] at hpos
    have hpos : 0 < (v.count .source).toNat := hpos
    simp only [PublicationRateSnapshot.counts]
    omega
  · intro hzero
    rw [hzero] at hsource
    have hsource : 0 = totals s .source := hsource
    constructor <;> refine UInt64.toNat_inj.mp ?_
    · show (v.count .timestampDuplicate).toNat = 0
      omega
    · show (v.count .timestampRegression).toNat = 0
      omega

def Dated (counted : List UInt64) (value : PublicationRateSnapshot) : Prop :=
  0 < value.count .source → counted.head? = some value.intervalStartMonotonicNs

theorem Dated.append {counted more : List UInt64} {value : PublicationRateSnapshot}
    (h : Dated counted value) : Dated (counted ++ more) value := by
  intro hpos
  have hhead := h hpos
  cases counted with
  | nil => cases hhead
  | cons first rest => exact hhead

inductive Stage (s : Core P) (counted : List UInt64) (value : PublicationRateSnapshot) :
    List SnapshotOp → Prop
  | loading (ops) (h : Reading s 0 value ops) (hmem : .sourceCount ∈ ops) : Stage s counted value ops
  | counted (h : Fits value) (hpos : 0 < value.count .source → counted ≠ []) :
    Stage s counted value [.sourceFirst]
  | done (h : Fits value) (hdated : Dated counted value) : Stage s counted value []

theorem Stage.mono {s s' : Core P} {counted more : List UInt64} {value : PublicationRateSnapshot}
    {ops : List SnapshotOp} (h : Stage s counted value ops) (hs : totals s ≤ totals s') :
    Stage s' (counted ++ more) value ops := by
  cases h with
  | loading _ h hmem => exact .loading _ (h.mono hs) hmem
  | counted h hpos => exact .counted h fun hv => List.append_ne_nil_of_left_ne_nil (hpos hv) _
  | done h hdated => exact .done h hdated.append

theorem Stage.exec [Inhabited P] {t : Bool} {s : State P} {pc : ProducerPc P}
    {counted : List UInt64} {value : PublicationRateSnapshot} {op : SnapshotOp}
    {ops : List SnapshotOp} (hs : (threads P t).Reachable s) (hbound : Unwrapped s.shared)
    (henabled : s.shared.metricsEnabled = true) (hcounted : Arrivals s.shared pc counted)
    (h : Stage s.shared counted value (op :: ops)) :
    Stage s.shared counted (op.exec s.shared value) ops := by
  cases h with
  | loading _ h hmem =>
    obtain heq | heq | heq | ⟨l, todo, heq, hrest⟩ := snapshot_cases h.rest
    · cases heq
    · rw [heq] at hmem
      simp at hmem
    · cases heq
      refine .counted (fits_of_sampled hbound (totals_fit hs henabled) h.sampled) fun hpos => ?_
      rintro rfl
      -- nothing has been counted, so the count just loaded is 0
      have hzero : s.shared.sourceCount.total = 0 := hcounted.length.symm
      have hload : (SnapshotOp.sourceCount.exec s.shared value).count .source = 0 := by
        simp [SnapshotOp.exec, PublicationRateSnapshot.setCount, Counter.load, hzero]
      rw [hload] at hpos
      exact absurd hpos (by decide)
    · cases heq
      exact .loading _ (h.exec hbound fun f => Nat.zero_le _) hrest
  | counted h hpos =>
    refine .done { h with } fun hv => ?_
    obtain ⟨first, hfirst⟩ := List.exists_mem_of_ne_nil _ (hpos hv)
    cases counted with
    | nil => cases hfirst
    | cons ns rest => exact congrArg some (hcounted.head ns rfl).symm

structure CallerOk (s : State P) (w : Caller) : Prop where
  arrivals : Arrivals s.shared (s.locals .producer) w.counted
  stage : ∀ value ops, w.pc = some (value, ops) →
    s.shared.metricsEnabled = true ∧ Stage s.shared w.counted value ops
  returned : ∀ value ∈ w.returned, Fits value ∧ Dated w.counted value

theorem CallerOk.step [Inhabited P] {t : Bool} {s s' : State P} {e : Σ i, Act P i} {w : Caller}
    (hs : (threads P t).Reachable s) (hn : (threads P t).toSystem.next e s = some s')
    (hbound : Unwrapped s'.shared) (h : CallerOk s w) : CallerOk s' (watchArrivals e s w) := by
  obtain ⟨i, a⟩ := e
  obtain ⟨c, l, hst, rfl⟩ := Threads.next_eq_some hn
  have htotals := threads_totals hst
  have hmore : ∃ more, (watchArrivals ⟨i, a⟩ s w).counted = w.counted ++ more ∧
      Arrivals c (Function.update s.locals i l .producer) (w.counted ++ more) := by
    cases i with
    | owner =>
      obtain ⟨-, hsource, hfirst⟩ := ownerStep_totals hst
      exact ⟨[], (List.append_nil _).symm, (List.append_nil _).symm ▸ h.arrivals.congr hsource hfirst⟩
    | publisher =>
      obtain ⟨-, hsource, hfirst⟩ := publishLoop_totals (threads_publisher hst).2
      exact ⟨[], (List.append_nil _).symm, (List.append_nil _).symm ▸ h.arrivals.congr hsource hfirst⟩
    | producer =>
      have hsource : s.shared.sourceCount.total < 2 ^ 64 :=
        (htotals .source).trans_lt (hbound .source)
      have harrivals := h.arrivals.producer hsource hst
      obtain ⟨more, hmore⟩ := countArrival_append a (s.locals .producer) w.counted
      refine ⟨more, hmore, ?_⟩
      rw [Function.update_self, ← hmore]
      exact harrivals
  obtain ⟨more, hcounted, harrivals⟩ := hmore
  have hpc : (watchArrivals ⟨i, a⟩ s w).pc = w.pc := by
    cases i <;> rfl
  have hreturned : (watchArrivals ⟨i, a⟩ s w).returned = w.returned := by
    cases i <;> rfl
  refine ⟨hcounted ▸ harrivals, ?_, ?_⟩
  · rw [hpc, hcounted]
    intro value ops hw
    obtain ⟨henabled, hstage⟩ := h.stage value ops hw
    exact ⟨enabled_step hs hst henabled, hstage.mono htotals⟩
  · rw [hreturned, hcounted]
    exact fun value hv => ⟨(h.returned value hv).1, (h.returned value hv).2.append⟩

theorem CallerOk.act [Inhabited P] {t : Bool} {s : State P} {b : RateAct} {w w' : Caller}
    (hs : (threads P t).Reachable s) (hact : callSnapshot b s w = some w')
    (hbound : Unwrapped s.shared) (h : CallerOk s w) : CallerOk s w' := by
  obtain ⟨harrivals, hstage, hreturned⟩ := h
  unfold callSnapshot at hact
  split at hact
  · split at hact <;> cases hact
    rename_i henabled
    refine ⟨harrivals, ?_, hreturned⟩
    rintro _ _ ⟨⟩
    rw [henabled]
    exact ⟨rfl, .loading _ (.start _) (by simp [snapshot])⟩
  · cases hact
    obtain ⟨henabled, hstage⟩ := hstage _ _ rfl
    refine ⟨harrivals, ?_, hreturned⟩
    rintro _ _ ⟨⟩
    exact ⟨henabled, hstage.exec hs hbound henabled harrivals⟩
  · cases hact
    obtain ⟨-, hstage⟩ := hstage _ _ rfl
    refine ⟨harrivals, nofun, ?_⟩
    rw [List.forall_mem_append, List.forall_mem_singleton]
    refine ⟨hreturned, ?_⟩
    cases hstage with
    | loading _ _ hmem => cases hmem
    | done hfits hdated => exact ⟨hfits, hdated⟩
  · cases hact

/-- Every snapshot that is returned is consistent, whatever was counted between its loads. -/
theorem snapshots_consistent [Inhabited P] {t : Bool} {x : State P × Caller}
    (h : (snapshotSystem P t).Reachable x) (hclock : ∀ ns ∈ x.2.counted, ns ≠ 0)
    (hbound : Unwrapped x.1.shared) : ∀ value ∈ x.2.returned, Consistent x.2.counted value := by
  have key : CallerOk x.1 x.2 := by
    refine System.Reachable.observe (M := (threads P t).toSystem) (O := snapshotCaller)
      (Q := fun s => Unwrapped s.shared) (P := CallerOk) ?_ ?_ ?_ ?_ h hbound
    · exact ⟨⟨rfl, nofun, nofun, nofun⟩, nofun, nofun⟩
    · rintro s ⟨i, a⟩ s' _ hn hbound f
      obtain ⟨c, l, hst, rfl⟩ := Threads.next_eq_some hn
      exact (threads_totals hst f).trans_lt (hbound f)
    · exact fun s e s' w hs hn hbound hw => hw.step hs hn hbound
    · exact fun s b w w' hs hact hbound hw => hw.act hs hact hbound
  intro value hv
  obtain ⟨hfits, hdated⟩ := key.returned value hv
  refine { hfits with start := fun hpos => ?_ }
  have hhead := hdated hpos
  exact ⟨hclock _ (List.mem_of_mem_head? hhead), hhead⟩

def consistentRun : List ((Σ i, Act Unit i) ⊕ RateAct) :=
  rateStart.map .inl ++ (.snapshot 10 :: List.replicate 5 .step).map .inr ++
    (producerDoes [.callback (some ⟨sampleStructSize, 5, ()⟩) 11, .step, .step, .step, .step, .step,
      .step, .step, .step]).map .inl ++
    (publisherDoes (List.replicate 11 .step ++ [.returns 3, .step])).map .inl ++
    (List.replicate 12 .step).map .inr

def consistentEnd : State Unit × Caller :=
  ((snapshotSystem Unit false).run consistentRun (snapshotSystem Unit false).start).get rfl

theorem snapshots_consistent_racing :
    (consistentEnd.2.returned.map fun value =>
      (value.count .source, value.intervalStartMonotonicNs)) = [(1, 11)] ∧
    ∀ value ∈ consistentEnd.2.returned, Consistent [11] value :=
  ⟨by decide, snapshots_consistent (x := consistentEnd) (System.reachable_get _)
    (show ∀ ns ∈ [(11 : UInt64)], ns ≠ 0 from List.forall_mem_singleton.mpr (by decide))
    fun f => by cases f <;> decide⟩

end RoboBaton.Imu
