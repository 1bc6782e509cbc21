import RoboBaton.Imu.Lifecycle
import RoboBaton.Metrics.Snapshot

/-! `ImuLifecycleCore::Snapshot`, load by load, and `LogRateMetrics` of the IMU publisher with
the baseline that `Start` takes. -/

namespace RoboBaton.Imu
open Metrics Transition
variable {P : Type}

/-! ### Snapshots -/

/-- One load of `Snapshot`: of the metrics, or of the two members that replace theirs. -/
inductive SnapshotOp
  | metrics (l : Load)
  | sourceCount
  | sourceFirst
  deriving DecidableEq

def snapshot (metricsEnabled : Bool) : List SnapshotOp :=
  Metrics.snapshot.map .metrics ++ if metricsEnabled then [.sourceCount, .sourceFirst] else []

def SnapshotOp.exec (s : Core P) (value : PublicationRateSnapshot) :
    SnapshotOp → PublicationRateSnapshot
  | .metrics l => l.exec s.metrics value
  | .sourceCount => value.setCount .source s.sourceCount.load
  | .sourceFirst => { value with intervalStartMonotonicNs := s.sourceFirstNs }

def SnapshotOp.field : SnapshotOp → Option Field
  | .metrics l => l.field
  | .sourceCount => some .source
  | .sourceFirst => none

def counter (s : Core P) (f : Field) : Counter :=
  if f = .source then s.sourceCount else f.counter s.metrics

def totals (s : Core P) (f : Field) : ℕ := (counter s f).total

theorem totals_source (s : Core P) : totals s .source = s.sourceCount.total := rfl

theorem totals_of_ne (s : Core P) {f : Field} (h : f ≠ .source) :
    totals s f = s.metrics.totals f := by
  rw [totals, counter, if_neg h]
  rfl

theorem SnapshotOp.exec_frame {s : Core P} {value : PublicationRateSnapshot} {op : SnapshotOp}
    {f : Field} (h : op.field ≠ some f) : (op.exec s value).counts f = value.counts f := by
  cases op with
  | metrics l => exact Load.exec_frame h
  | sourceCount =>
    exact PublicationRateSnapshot.counts_setCount_of_ne value _ fun hf => h (congrArg some hf.symm)
  | sourceFirst => rfl

theorem SnapshotOp.exec_copy {s : Core P} {value : PublicationRateSnapshot} {op : SnapshotOp}
    {f : Field} (h : op.field = some f) (hsource : op = .metrics (.count .source) → f ≠ .source) :
    (op.exec s value).counts f = (counter s f).load.toNat := by
  cases op with
  | metrics l =>
    have hf : f ≠ .source := by
      rintro rfl
      cases l with
      | count g =>
        obtain rfl := Option.some.inj h
        exact hsource rfl rfl
      | latencyMax => cases h
      | first => cases h
    rw [counter, if_neg hf]
    exact Load.exec_copy h
  | sourceCount =>
    obtain rfl := Option.some.inj h
    exact PublicationRateSnapshot.counts_setCount value _ _
  | sourceFirst => cases h

theorem snapshot_cases {ops : List SnapshotOp} (h : ops <:+ snapshot true) :
    ops = [] ∨ ops = [.sourceFirst] ∨ ops = [.sourceCount, .sourceFirst] ∨
      ∃ l todo, ops = .metrics l :: todo ∧ .sourceCount ∈ todo := by
  have hreplacing : [SnapshotOp.sourceCount, .sourceFirst] <:+ snapshot true :=
    List.suffix_append _ _
  obtain hops | ⟨before, rfl⟩ := List.suffix_or_suffix_of_suffix h hreplacing
  · obtain rfl | hops := List.suffix_cons_iff.mp hops
    · exact .inr (.inr (.inl rfl))
    · obtain rfl | hops := List.suffix_cons_iff.mp hops
      · exact .inr (.inl rfl)
      · exact .inl (List.suffix_nil.mp hops)
  · cases before with
    | nil => exact .inr (.inr (.inl rfl))
    | cons op before =>
      obtain ⟨more, hmore⟩ := h
      rw [← List.append_assoc] at hmore
      have hmetrics : op ∈ Metrics.snapshot.map SnapshotOp.metrics :=
        List.append_cancel_right hmore ▸ List.mem_append_right _ List.mem_cons_self
      obtain ⟨l, -, rfl⟩ := List.mem_map.mp hmetrics
      exact .inr (.inr (.inr ⟨l, before ++ [.sourceCount, .sourceFirst], rfl, by simp⟩))

theorem snapshot_covers (f : Field) : ∃ op ∈ snapshot true, op.field = some f := by
  obtain ⟨l, hl, hf⟩ := Metrics.snapshot_covers f
  exact ⟨.metrics l, List.mem_append_left _ (List.mem_map_of_mem hl), hf⟩

theorem sampled_exec {s : Core P} {low : Field → ℕ} {value : PublicationRateSnapshot}
    {op : SnapshotOp} {todo : List SnapshotOp} (hbound : ∀ f, totals s f < 2 ^ 64)
    (hops : op :: todo <:+ snapshot true) (hlow : low ≤ totals s)
    (h : Sampled SnapshotOp.field low value.counts (totals s) (op :: todo)) :
    Sampled SnapshotOp.field low (op.exec s value).counts (totals s) todo := by
  refine h.step hlow (fun f => SnapshotOp.exec_frame) fun f hf hlast => ?_
  rw [SnapshotOp.exec_copy hf]
  · exact Counter.toNat_load _ (hbound f)
  · rintro rfl rfl
    obtain h | h | h | ⟨l, todo, h, hmem⟩ := snapshot_cases hops
    · cases h
    · cases h
    · cases h
    · cases h
      exact hlast _ hmem rfl

/-! ### The counters only grow -/

theorem sampleTrampoline_totals {a : ProducerAct P} {s s' : Core P} {l l' : ProducerPc P}
    (h : sampleTrampoline a s l = some (s', l')) :
    s'.metrics = s.metrics ∧ s.sourceCount.total ≤ s'.sourceCount.total := by
  cases sampleTrampoline_step h with
  | addSourceCount => exact ⟨rfl, Nat.le_add_right _ _⟩
  | _ => exact ⟨rfl, le_rfl⟩

theorem publishLoop_totals {t : Bool} {a : PublisherAct} {s s' : Core P} {l l' : PublisherPc P}
    (h : publishLoop t a s l = some (s', l')) :
    s.metrics.totals ≤ s'.metrics.totals ∧ s'.sourceCount = s.sourceCount ∧
      s'.sourceFirstNs = s.sourceFirstNs := by
  cases publishLoop_step h with
  | access spurious access => exact ⟨totals_exec _ _ _, rfl, rfl⟩
  | _ => exact ⟨le_rfl, rfl, rfl⟩

theorem exec_totals {s s' : Core P} {rest ops : List OwnerOp} {op : OwnerOp} {r : Reply}
    (h : op.exec s rest r = some (s', ops)) :
    s'.metrics = s.metrics ∧ s'.sourceCount = s.sourceCount ∧
      s'.sourceFirstNs = s.sourceFirstNs := by
  cases exec_step h <;> exact ⟨rfl, rfl, rfl⟩

theorem ownerStep_totals {a : OwnerAct} {s s' : Core P} {l l' : OwnerLocal}
    (h : ownerStep a s l = some (s', l')) :
    s'.metrics = s.metrics ∧ s'.sourceCount = s.sourceCount ∧
      s'.sourceFirstNs = s.sourceFirstNs := by
  obtain ⟨rfl, -⟩ | ⟨op, ops, r, -, he, -⟩ := ownerStep_cases h
  · exact ⟨rfl, rfl, rfl⟩
  · exact exec_totals he

theorem totals_le {s s' : Core P} (hm : s.metrics.totals ≤ s'.metrics.totals)
    (hsource : s.sourceCount.total ≤ s'.sourceCount.total) : totals s ≤ totals s' := by
  intro f
  by_cases hf : f = .source
  · subst hf
    exact hsource
  · rw [totals_of_ne s hf, totals_of_ne s' hf]
    exact hm f

theorem threads_totals [Inhabited P] {t : Bool} {i : Thread} {a : Act P i} {s s' : Core P}
    {l l' : Local P i} (h : (threads P t).step i a s l = some (s', l')) :
    totals s ≤ totals s' := by
  cases i with
  | owner =>
    obtain ⟨hm, hsource, -⟩ := ownerStep_totals h
    exact totals_le (by rw [hm]) (by rw [hsource])
  | producer =>
    obtain ⟨hm, hsource⟩ := sampleTrampoline_totals h
    exact totals_le (by rw [hm]) hsource
  | publisher =>
    obtain ⟨hm, hsource, -⟩ := publishLoop_totals (threads_publisher h).2
    exact totals_le hm (by rw [hsource])

/-! ### The rate log -/

inductive RatePc
  | started
  | baseline (value : PublicationRateSnapshot) (ops : List SnapshotOp)
  | idle
  | loading (value : PublicationRateSnapshot) (ops : List SnapshotOp)

structure RateTimer where
  pc : RatePc
  log : RateLog

inductive RateAct
  | snapshot (nowNs : UInt64)
  | step

def TimerCreated (s : Core P) : Prop :=
  .returnStart true ∈ s.events ∧ s.metricsEnabled = true

instance (s : Core P) : Decidable (TimerCreated s) := inferInstanceAs (Decidable (_ ∧ _))

def logRateMetrics : RateAct → State P → RateTimer → Option RateTimer
  | .snapshot nowNs, s, ⟨.started, log⟩ =>
    if TimerCreated s.shared then
      some ⟨.baseline (snapshotAt nowNs) (snapshot s.shared.metricsEnabled), log⟩
    else none
  | .step, s, ⟨.baseline value (op :: ops), log⟩ =>
    some ⟨.baseline (op.exec s.shared value) ops, log⟩
  | .step, _, ⟨.baseline value [], _⟩ => some ⟨.idle, .start value⟩
  | .snapshot nowNs, s, ⟨.idle, log⟩ =>
    some ⟨.loading (snapshotAt nowNs) (snapshot s.shared.metricsEnabled), log⟩
  | .step, s, ⟨.loading value (op :: ops), log⟩ =>
    some ⟨.loading (op.exec s.shared value) ops, log⟩
  | .step, _, ⟨.loading value [], log⟩ => some ⟨.idle, log.write value⟩
  | _, _, _ => none

def rateTimer : Observer (State P) (Σ i, Act P i) RateTimer RateAct where
  start := ⟨.started, .start .zero⟩
  watch _ _ r := r
  act := logRateMetrics

variable (P) in
def rateSystem [Inhabited P] (t : Bool) :
    System (State P × RateTimer) ((Σ i, Act P i) ⊕ RateAct) :=
  (threads P t).toSystem.observed rateTimer

/-- No counter of the IMU has reached 2^64. -/
def Unwrapped (s : Core P) : Prop := ∀ f, totals s f < 2 ^ 64

structure Reading (s : Core P) (low : Field → ℕ) (value : PublicationRateSnapshot)
    (ops : List SnapshotOp) : Prop where
  rest : ops <:+ snapshot true
  sampled : Sampled SnapshotOp.field low value.counts (totals s) ops

theorem Reading.start {s : Core P} {low : Field → ℕ} (value : PublicationRateSnapshot) :
    Reading s low value (snapshot true) := ⟨List.suffix_refl _, sampled_start snapshot_covers⟩

theorem Reading.mono {s s' : Core P} {low : Field → ℕ} {value : PublicationRateSnapshot}
    {ops : List SnapshotOp} (h : Reading s low value ops) (hs : totals s ≤ totals s') :
    Reading s' low value ops := ⟨h.rest, h.sampled.mono hs⟩

theorem Reading.exec {s : Core P} {low : Field → ℕ} {value : PublicationRateSnapshot}
    {op : SnapshotOp} {ops : List SnapshotOp} (hbound : Unwrapped s) (hlow : low ≤ totals s)
    (h : Reading s low value (op :: ops)) : Reading s low (op.exec s value) ops :=
  ⟨(List.suffix_cons op ops).trans h.rest, sampled_exec hbound h.rest hlow h.sampled⟩

def RatePc.Ok (s : Core P) (previous : Field → ℕ) : RatePc → Prop
  | .started => True
  | .baseline value ops => TimerCreated s ∧ Reading s 0 value ops
  | .idle => TimerCreated s
  | .loading value ops => TimerCreated s ∧ Reading s previous value ops

structure TimerOk (s : Core P) (r : RateTimer) : Prop where
  log : r.log.Ok (totals s)
  pc : r.pc.Ok s r.log.previous.counts

theorem exec_metricsEnabled {s s' : Core P} {rest ops : List OwnerOp} {op : OwnerOp} {r : Reply}
    (hclosed : s.startClaimed = true ∨ s.terminal = true)
    (h : op.exec s rest r = some (s', ops)) : s'.metricsEnabled = s.metricsEnabled := by
  cases exec_step h with
  | claim config sink notifier hclaim hopen => simp [hclaim, hopen] at hclosed
  | _ => rfl

theorem timerCreated_step [Inhabited P] {t : Bool} {s : State P} {i : Thread} {a : Act P i}
    {s' : Core P} {l' : Local P i} (hs : (threads P t).Reachable s)
    (h : (threads P t).step i a s.shared (s.locals i) = some (s', l'))
    (hcreated : TimerCreated s.shared) : TimerCreated s' := by
  obtain ⟨hreturned, henabled⟩ := hcreated
  refine ⟨(threads_events h).subset hreturned, ?_⟩
  rw [← henabled]
  cases i with
  | owner =>
    obtain ⟨he, -⟩ | ⟨op, ops, r, -, he, -⟩ := ownerStep_cases h
    · rw [he]
    · exact exec_metricsEnabled ((reachable_owner hs).1.closed (.inl ⟨true, hreturned⟩)) he
  | producer => exact (sampleTrampoline_frame h).1.metricsEnabled
  | publisher => exact (publisher_step_running h).1.metricsEnabled

theorem TimerOk.mono {s s' : Core P} {r : RateTimer} (h : TimerOk s r)
    (hs : totals s ≤ totals s') (hcreated : TimerCreated s → TimerCreated s') : TimerOk s' r := by
  obtain ⟨pc, log⟩ := r
  refine ⟨h.log.mono hs, ?_⟩
  have hpc := h.pc
  cases pc with
  | started => trivial
  | baseline value ops => exact ⟨hcreated hpc.1, hpc.2.mono hs⟩
  | idle => exact hcreated hpc
  | loading value ops => exact ⟨hcreated hpc.1, hpc.2.mono hs⟩

theorem logRateMetrics_timerOk {s : State P} {b : RateAct} {r r' : RateTimer}
    (hbound : Unwrapped s.shared) (hr : TimerOk s.shared r)
    (h : logRateMetrics b s r = some r') : TimerOk s.shared r' := by
  obtain ⟨hlog, hpc⟩ := hr
  unfold logRateMetrics at h
  split at h
  · -- the baseline starts
    split at h <;> cases h
    rename_i hcreated
    refine ⟨hlog, hcreated, ?_⟩
    rw [hcreated.2]
    exact .start _
  · cases h
    exact ⟨hlog, hpc.1, hpc.2.exec hbound fun f => Nat.zero_le _⟩
  · cases h
    exact ⟨RateLog.start_ok hpc.2.sampled.done.2, hpc.1⟩
  · cases h
    have hcreated : TimerCreated s.shared := hpc
    refine ⟨hlog, hcreated, ?_⟩
    rw [hcreated.2]
    exact .start _
  · cases h
    exact ⟨hlog, hpc.1, hpc.2.exec hbound hlog.reached⟩
  · -- the record is written
    cases h
    obtain ⟨hcreated, hreading⟩ := hpc
    exact ⟨hlog.write hreading.sampled.done.1 hreading.sampled.done.2, hcreated⟩
  · cases h

theorem reachable_timerOk [Inhabited P] {t : Bool} {x : State P × RateTimer}
    (h : (rateSystem P t).Reachable x) (hbound : Unwrapped x.1.shared) :
    TimerOk x.1.shared x.2 := by
  have htotals : ∀ s e s', (threads P t).toSystem.next e s = some s' →
      totals s.shared ≤ totals s'.shared := by
    rintro s ⟨i, a⟩ s' hn
    obtain ⟨c, l, hst, rfl⟩ := Threads.next_eq_some hn
    exact threads_totals hst
  refine System.Reachable.observe (M := (threads P t).toSystem) (O := rateTimer)
    (Q := fun s => Unwrapped s.shared) (P := fun s r => TimerOk s.shared r) ?_ ?_ ?_ ?_ h hbound
  · exact ⟨RateLog.start_ok fun f => Nat.zero_le _, trivial⟩
  · intro s e s' _ hn hbound' f
    exact (htotals s e s' hn f).trans_lt (hbound' f)
  · rintro s ⟨i, a⟩ s' r hs hn _ hr
    refine hr.mono (htotals s ⟨i, a⟩ s' hn) ?_
    obtain ⟨c, l, hst, rfl⟩ := Threads.next_eq_some hn
    exact timerCreated_step hs hst
  · intro s b r r' _ hact hbound' hr
    exact logRateMetrics_timerOk hbound' hr hact

def rateStart : List (Σ i, Act Unit i) :=
  ownerDoes [.start ⟨200, 8, 1, true⟩ true true, .reply .done,
    .reply (.created statusOk (some 7)), .reply (.status statusOk), .reply .done,
    .reply (.spawned true), .reply .done, .reply (.status statusOk), .reply .done]

end RoboBaton.Imu
