import RoboBaton.Camera.Balance
import RoboBaton.Metrics.Snapshot

/-! `LogRateMetrics` of the camera publisher: its timer reads the clock, takes the snapshot of
each enabled camera in turn, load by load, and writes the record of the window. -/

namespace RoboBaton.Camera
open Metrics Transition
variable {D : Type} {cameraInfo : Bool}

/-! ### What the threads do to the metrics -/

section Accesses
variable {s s' : Core D}

def Touches (s s' : Core D) (ops : List CommonOp) : Prop :=
  s'.metrics = s.metrics ∨ ∃ spurious c a rest, ops = .access c a :: rest ∧
    s'.metrics = Function.update s.metrics c (a.exec spurious (s.metrics c)).1

theorem exec_touches (spurious : Bool) (s : Core D) (op : CommonOp) (ops : List CommonOp) :
    Touches s (op.exec spurious s).1 (op :: ops) := by
  cases op with
  | access c a => exact .inr ⟨spurious, c, a, ops, rfl, rfl⟩
  | _ => exact .inl rfl

theorem callback_touches [DecidableEq D] {d : D} {l l' : Code CallbackPc} (h : CallbackStep d s l s' l') :
    Touches s s' l.pending := by
  cases h with
  | common spurious op ops pc => exact exec_touches spurious s op ops
  | leave failed => cases failed <;> exact .inl rfl
  | _ => exact .inl rfl

theorem worker_touches {c : CameraId} {l l' : Code WorkerPc}
    (h : WorkerStep cameraInfo c s l s' l') : Touches s s' l.pending := by
  cases h with
  | common spurious op ops pc => exact exec_touches spurious s op ops
  | finish failed => cases failed <;> exact .inl rfl
  | _ => exact .inl rfl

theorem effect_touches {op : OwnerOp} {rest : List OwnerOp} {detached detached' : List RetainedFrameJob}
    (h : OwnerEffect s detached op s' detached') :
    Touches s s' (code (D := D) .owner (⟨op :: rest, detached⟩ : OwnerLocal)) := by
  cases h with
  | quiet _ _ hquiet => exact .inl hquiet.metrics
  | common op => exact exec_touches false s op _
  | _ => exact .inl rfl

theorem owner_touches [Fintype D] {a : OwnerAct} {l l' : OwnerLocal}
    (h : ownerStep a s l = some (s', l')) : Touches s s' (code (D := D) .owner l) := by
  obtain ⟨rfl, -⟩ | ⟨op, rest, hops, he⟩ := ownerStep_cases h
  · exact .inl rfl
  · obtain ⟨ops, detached⟩ := l
    obtain rfl : ops = op :: rest := hops
    exact effect_touches (exec_effect he)

theorem threads_touches [Fintype D] [DecidableEq D] {i : Thread D} {a : Act i} {l l' : Local i}
    (h : (threads D cameraInfo).step i a s l = some (s', l')) : Touches s s' (code i l) := by
  cases i with
  | owner => exact owner_touches h
  | dispatcher d => exact callback_touches (frameSetTrampoline_step h)
  | worker c => exact worker_touches (workerLoop_step h).2

theorem Touches.totals_le {ops : List CommonOp} (h : Touches s s' ops) (c : CameraId) :
    (s.metrics c).totals ≤ (s'.metrics c).totals := by
  obtain hm | ⟨spurious, c', a, -, -, hm⟩ := h
  · rw [hm]
  · rw [hm]
    by_cases hc : c = c'
    · subst hc
      rw [Function.update_self]
      exact totals_exec spurious _ a
    · rw [Function.update_of_ne hc]

end Accesses

/-! ### The timer -/

inductive RatePc
  | idle
  | camera (nowNs : UInt64) (todo : List CameraId)
  | loading (nowNs : UInt64) (c : CameraId) (value : PublicationRateSnapshot) (loads : List Load)
      (todo : List CameraId)

/-- The timer with the logs of the cameras. The rest is history: the last reading of the
steady clock, whether its readings have been positive and in order, and for each camera the
readings of the frames counted so far, of those counted when the clock was read for its first
record, and of those counted when the snapshot of that record looked for the first one. -/
structure RateTimer where
  pc : RatePc
  logs : CameraId → RateLog
  clockNs : UInt64
  steady : Bool
  counted : CameraId → List UInt64
  opened : CameraId → List UInt64
  seen : CameraId → List UInt64

namespace RateTimer
variable (r : RateTimer)

def read (nowNs : UInt64) : RateTimer :=
  { r with clockNs := nowNs, steady := r.steady && nowNs > 0 && r.clockNs ≤ nowNs }

def count (c : CameraId) (monotonicNs : UInt64) : RateTimer :=
  { r with counted := Function.update r.counted c (r.counted c ++ [monotonicNs]) }

def unopened (c : CameraId) : Bool := (r.logs c).records.isEmpty

end RateTimer

inductive RateAct
  | tick (nowNs : UInt64)
  | step

/-- `Start` creates the timer when it has succeeded, and only with the metrics enabled. -/
def TimerCreated (s : Core D) : Prop :=
  .returnStart .started ∈ s.events ∧ s.config.rateMetricsEnabled = true

instance (s : Core D) : Decidable (TimerCreated s) := inferInstanceAs (Decidable (_ ∧ _))

def logRateMetrics : RateAct → State D → RateTimer → Option RateTimer
  | .tick nowNs, s, r =>
    match r.pc with
    | .idle =>
      if TimerCreated s.shared then
        some { r.read nowNs with
          pc := .camera nowNs cameras
          opened := fun c => if r.unopened c then r.counted c else r.opened c }
      else none
    | _ => none
  | .step, s, r =>
    match r.pc with
    | .idle => none
    | .camera _ [] => some { r with pc := .idle }
    | .camera nowNs (c :: todo) =>
      some { r with
        pc :=
          if s.shared.config.cameraEnabled c then
            .loading nowNs c (snapshotAt nowNs) Metrics.snapshot todo
          else .camera nowNs todo }
    | .loading nowNs c value (l :: loads) todo =>
      some { r with
        pc := .loading nowNs c (l.exec (s.shared.metrics c) value) loads todo
        seen :=
          if l = .first ∧ r.unopened c then Function.update r.seen c (r.counted c) else r.seen }
    | .loading nowNs c value [] todo =>
      some { r with
        pc := .camera nowNs todo
        logs := Function.update r.logs c ((r.logs c).write value) }

def clockReading (e : Σ i : Thread D, Act i) (s : State D) : Option UInt64 :=
  match e with
  | ⟨.dispatcher _, .info _ _ nowNs⟩ =>
    if s.shared.config.rateMetricsEnabled then some nowNs else none
  | _ => none

/-- A frame counts from the `SetFirstMonotonic` of its `RecordSource`. -/
def countedFrame (e : Σ i : Thread D, Act i) (s : State D) : Option (CameraId × UInt64) :=
  match e.1 with
  | .dispatcher d =>
    match (s.locals (.dispatcher d) : Code CallbackPc).pending with
    | .access c (.setFirst monotonicNs) :: _ => some (c, monotonicNs)
    | _ => none
  | _ => none

def watchClock (e : Σ i : Thread D, Act i) (s : State D) (r : RateTimer) : RateTimer :=
  match clockReading e s with
  | some nowNs => r.read nowNs
  | none => r

def watchFrames (e : Σ i : Thread D, Act i) (s : State D) (r : RateTimer) : RateTimer :=
  match countedFrame e s with
  | some (c, monotonicNs) => r.count c monotonicNs
  | none => r

def rateTimer : Observer (State D) (Σ i : Thread D, Act i) RateTimer RateAct where
  start := ⟨.idle, fun _ => .start .zero, 0, true, fun _ => [], fun _ => [], fun _ => []⟩
  watch e s r := watchFrames e s (watchClock e s r)
  act := logRateMetrics

variable (D cameraInfo) in
def rateSystem [Fintype D] [DecidableEq D] : System (State D × RateTimer) ((Σ i : Thread D, Act i) ⊕ RateAct) :=
  (threads D cameraInfo).toSystem.observed rateTimer

/-! ### Its logs -/

def Unwrapped (m : Metrics) : Prop := ∀ f, m.totals f < 2 ^ 64

structure LogOk (s : Core D) (r : RateTimer) (c : CameraId) : Prop where
  baseline : (r.logs c).baseline = .zero
  log : (r.logs c).Ok (s.metrics c).totals
  sampled : ∀ nowNs value loads todo, r.pc = .loading nowNs c value loads todo →
    Sampled Load.field (r.logs c).previous.counts value.counts (s.metrics c).totals loads

theorem LogOk.mono {s s' : Core D} {r : RateTimer} {c : CameraId} (h : LogOk s r c)
    (hm : (s.metrics c).totals ≤ (s'.metrics c).totals) : LogOk s' r c where
  baseline := h.baseline
  log := h.log.mono hm
  sampled nowNs value loads todo hpc := (h.sampled nowNs value loads todo hpc).mono hm

structure Watches (r r' : RateTimer) : Prop where
  pc : r'.pc = r.pc
  logs : r'.logs = r.logs
  opened : r'.opened = r.opened
  seen : r'.seen = r.seen

theorem rateTimer_watches (e : Σ i : Thread D, Act i) (s : State D) (r : RateTimer) :
    Watches r (rateTimer.watch e s r) := by
  show Watches r (watchFrames e s (watchClock e s r))
  unfold watchFrames watchClock
  split <;> split <;> exact ⟨rfl, rfl, rfl, rfl⟩

theorem logRateMetrics_logOk {s : State D} {b : RateAct} {r r' : RateTimer} {c : CameraId}
    (hbound : Unwrapped (s.shared.metrics c)) (hr : LogOk s.shared r c)
    (h : logRateMetrics b s r = some r') : LogOk s.shared r' c := by
  obtain ⟨pc, logs, clockNs, steady, counted, opened, seen⟩ := r
  cases b with
  | tick nowNs =>
    cases pc with
    | idle =>
      obtain ⟨-, h⟩ := Option.ite_none_right_eq_some.mp h
      cases h
      exact ⟨hr.baseline, hr.log, fun _ _ _ _ hpc => by cases hpc⟩
    | camera nowNs todo => cases h
    | loading nowNs c' value loads todo => cases h
  | step =>
    cases pc with
    | idle => cases h
    | camera nowNs todo =>
      cases todo with
      | nil =>
        cases h
        exact ⟨hr.baseline, hr.log, fun _ _ _ _ hpc => by cases hpc⟩
      | cons c' todo =>
        cases h
        refine ⟨hr.baseline, hr.log, fun _ value loads _ hpc => ?_⟩
        dsimp only at hpc
        split at hpc <;> cases hpc
        exact sampled_start snapshot_covers
    | loading nowNs c' value loads todo =>
      cases loads with
      | nil =>
        cases h
        have hlog : (Function.update logs c' ((logs c').write value) c).baseline = .zero ∧
            (Function.update logs c' ((logs c').write value) c).Ok (s.shared.metrics c).totals := by
          by_cases hc : c = c'
          · subst hc
            have hdone := (hr.sampled _ _ _ _ rfl).done
            rw [Function.update_self]
            exact ⟨hr.baseline, hr.log.write hdone.1 hdone.2⟩
          · rw [Function.update_of_ne hc]
            exact ⟨hr.baseline, hr.log⟩
        exact ⟨hlog.1, hlog.2, fun _ _ _ _ hpc => by cases hpc⟩
      | cons l loads =>
        cases h
        refine ⟨hr.baseline, hr.log, fun _ _ _ _ hpc => ?_⟩
        cases hpc
        refine (hr.sampled _ _ _ _ rfl).step hr.log.reached (fun f => Load.exec_frame) ?_
        intro f hf _
        rw [Load.exec_copy hf]
        exact Counter.toNat_load _ (hbound f)

theorem reachable_logOk [Fintype D] [DecidableEq D] {x : State D × RateTimer}
    (h : (rateSystem D cameraInfo).Reachable x)
    {c : CameraId} (hbound : Unwrapped (x.1.shared.metrics c)) : LogOk x.1.shared x.2 c := by
  have htotals : ∀ s e t, (threads D cameraInfo).toSystem.next e s = some t →
      (s.shared.metrics c).totals ≤ (t.shared.metrics c).totals := by
    rintro s ⟨i, a⟩ t hn
    obtain ⟨s', l', hst, rfl⟩ := Threads.next_eq_some hn
    exact (threads_touches hst).totals_le c
  refine System.Reachable.observe (M := (threads D cameraInfo).toSystem) (O := rateTimer)
    (Q := fun s => Unwrapped (s.shared.metrics c)) (P := fun s r => LogOk s.shared r c) ?_ ?_ ?_ ?_ h hbound
  · exact ⟨rfl, RateLog.start_ok fun f => Nat.zero_le _, fun _ _ _ _ hpc => by cases hpc⟩
  · intro s e t _ hn ht f
    exact (htotals s e t hn f).trans_lt (ht f)
  · intro s e t r _ hn _ hr
    obtain ⟨hpc, hlogs, -, -⟩ := rateTimer_watches e s r
    refine LogOk.mono ?_ (htotals s e t hn)
    exact ⟨hlogs ▸ hr.baseline, hlogs ▸ hr.log, hlogs ▸ hpc ▸ hr.sampled⟩
  · intro s b r r' _ hact hs hr
    exact logRateMetrics_logOk hs hr hact

/-! ### Runs -/

def rateConfig : CameraCoreConfig := { CameraCoreConfig.default with rateMetricsEnabled := true }

def countFrame (frame : Frame) (nowNs : UInt64) : List (Σ i : Thread Unit, Act i) :=
  dispatcherDoes () [.callback (some (sampleSet frame)), .step, .step,
    .info statusOk sampleInfo nowNs, .step, .step, .step, .retained statusOk, .step, .step, .step]

def logOnce (nowNs : UInt64) : List RateAct := .tick nowNs :: List.replicate 20 .step

def loggedRun : List ((Σ i : Thread Unit, Act i) ⊕ RateAct) :=
  (startRun rateConfig ++ countFrame 7 9).map .inl ++ (logOnce 20 ++ logOnce 30).map .inr

def loggedEnd : State Unit × RateTimer :=
  ((rateSystem Unit false).run loggedRun (rateSystem Unit false).start).get rfl

end RoboBaton.Camera
