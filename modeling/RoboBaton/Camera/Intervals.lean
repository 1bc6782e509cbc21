import RoboBaton.Camera.RateLog

/-! The intervals of the camera windows on a steady clock. -/

namespace RoboBaton.Camera
open Metrics Transition
variable {D : Type} {cameraInfo : Bool}

/-! ### Clock readings on their way into the metrics -/

section Readings
variable {s s' : Core D} {c : CameraId} {ns : UInt64}

theorem setFirst_notMem_common (spurious : Bool) (op : CommonOp) :
    .access c (.setFirst ns) ∉ (op.exec spurious s).2 := by
  cases op with
  | access c' a =>
    intro hmem
    obtain ⟨a', ha', heq⟩ := List.mem_map.mp hmem
    cases heq
    exact setFirst_notMem_exec spurious _ a ns ha'
  | _ => exact (common_metrics spurious s (fun _ _ heq => by cases heq)).2 c _

theorem mem_record {c' : CameraId} {as : List Access} {a : Access}
    (h : .access c a ∈ record s c' as) : s.config.rateMetricsEnabled = true ∧ a ∈ as := by
  unfold record at h
  split at h
  · obtain ⟨a', ha', heq⟩ := List.mem_map.mp h
    cases heq
    exact ⟨‹_›, ha'⟩
  · cases h

theorem access_notMem_callbackFailure {a : Access} : .access c a ∉ callbackFailure.pending := by
  simp [callbackFailure, closeAdmissionAndRequestStop, recordFailure]

theorem callback_setFirst [DecidableEq D] {d : D} {a : CallbackAct} {l l' : Code CallbackPc}
    (h : frameSetTrampoline d a s l = some (s', l'))
    (hmem : .access c (.setFirst ns) ∈ l'.pending) : .access c (.setFirst ns) ∈ l.pending ∨
      (∃ status info, a = .info status info ns) ∧ s.config.rateMetricsEnabled = true := by
  obtain ⟨_ | ⟨op, ops⟩, pc⟩ := l
  · right
    change pc.exec d s a = some (s', l') at h
    by_cases hinfo : (∃ scan, pc = .item scan) ∧ ∃ status info nowNs, a = .info status info nowNs
    · obtain ⟨⟨scan, rfl⟩, status, info, nowNs, rfl⟩ := hinfo
      simp only [CallbackPc.exec, handleItem] at h
      split at h
      · split at h
        · cases h
        · split at h <;> cases h
          · obtain ⟨henabled, hsource⟩ := mem_record hmem
            refine ⟨⟨status, info, ?_⟩, henabled⟩
            unfold recordSource setFirstMonotonic at hsource
            split at hsource <;> simp at hsource
            rw [hsource]
          · exact absurd hmem access_notMem_callbackFailure
      · cases h
    · -- every other instruction records no source
      cases exec_callbackStep h with
      | info scan =>
        exact absurd ⟨⟨scan, rfl⟩, handleItem_info h⟩ hinfo
      | dropped scan c' job => exact absurd (mem_record hmem).2 (by simp [recordDrop])
      | throwHeader | throwItem | throwRetain | unwind =>
        exact absurd hmem access_notMem_callbackFailure
      | _ => cases hmem
  · left
    have hinner : ∀ spurious, .access c (.setFirst ns) ∈ (op.exec spurious s).2 ++ ops →
        .access c (.setFirst ns) ∈ op :: ops := fun spurious hmem =>
      (List.mem_append.mp hmem).elim (fun hop => absurd hop (setFirst_notMem_common spurious op))
        (List.mem_cons_of_mem op)
    cases a with
    | step =>
      cases h
      exact hinner false hmem
    | spurious =>
      cases h
      exact hinner true hmem
    | callback set => cases h
    | info status info nowNs => cases h
    | retained status => cases h
    | throws => cases h

theorem recordJob_setFirst {job : RetainedFrameJob} {as : List Access}
    (has : .setFirst ns ∉ as) : .access c (.setFirst ns) ∉ recordJob s job as := by
  unfold recordJob
  split
  · exact fun hmem => has (mem_record hmem).2
  · exact List.not_mem_nil

theorem worker_setFirst {c' : CameraId} {l l' : Code WorkerPc}
    (h : WorkerStep cameraInfo c' s l s' l')
    (hmem : .access c (.setFirst ns) ∈ l'.pending) : .access c (.setFirst ns) ∈ l.pending := by
  cases h with
  | common spurious op ops pc =>
    exact (List.mem_append.mp hmem).elim
      (fun hop => absurd hop (setFirst_notMem_common spurious op)) (List.mem_cons_of_mem op)
  | published job latencyNs =>
    exact absurd hmem (recordJob_setFirst (by simp [recordPublishSuccess]))
  | throwImage job => exact absurd hmem (recordJob_setFirst (by simp [recordPublishFailure]))
  | throwInfo job => exact absurd hmem (recordJob_setFirst (by simp [recordPublishFailure]))
  | publishedInfo job =>
    dsimp only at hmem
    split at hmem
    · exact absurd hmem (recordJob_setFirst (by simp [recordAuxiliaryPublishSuccess]))
    · cases hmem
  | unwind job =>
    exact absurd hmem (by simp [workerFailure, recordFailure, closeAdmissionAndRequestStop])
  | _ => cases hmem

end Readings

def firstOf (times : List UInt64) : UInt64 := times.head?.getD 0

theorem firstOf_grows {times times' : List UInt64} (h : times <+: times')
    (hne : times ≠ []) : firstOf times' = firstOf times := by
  obtain ⟨rest, rfl⟩ := h
  cases times with
  | nil => exact absurd rfl hne
  | cons ns times => rfl

theorem firstOf_concat {times : List UInt64} {ns : UInt64} (hpositive : ∀ t ∈ times, t ≠ 0) :
    firstOf (times ++ [ns]) = if firstOf times = 0 then ns else firstOf times := by
  cases times with
  | nil => rfl
  | cons t times => exact (if_neg (hpositive t List.mem_cons_self)).symm

theorem firstOf_le {times : List UInt64} {clockNs : UInt64} (h : ∀ t ∈ times, t ≤ clockNs) :
    firstOf times ≤ clockNs := by
  cases times with
  | nil => exact UInt64.zero_le
  | cons t times => exact h t List.mem_cons_self

/-- Only the callbacks have clock readings on their way, and none of them lies after the last
one; the first that was counted is the one that the metrics hold. -/
structure ClockOk (s : State D) (clockNs : UInt64) (counted : CameraId → List UInt64) : Prop where
  pending : ∀ i c ns, .access c (.setFirst ns) ∈ code i (s.locals i) →
    (∃ d, i = .dispatcher d) ∧ ns ≠ 0 ∧ ns ≤ clockNs
  times : ∀ c, ∀ ns ∈ counted c, ns ≠ 0 ∧ ns ≤ clockNs
  stored : ∀ c, (s.shared.metrics c).firstMonotonicNs = firstOf (counted c)

theorem ClockOk.mono {s : State D} {clockNs clockNs' : UInt64} {counted : CameraId → List UInt64}
    (h : ClockOk s clockNs counted) (hle : clockNs ≤ clockNs') : ClockOk s clockNs' counted where
  pending i c ns hmem := by
    obtain ⟨hd, hne, hns⟩ := h.pending i c ns hmem
    exact ⟨hd, hne, UInt64.le_trans hns hle⟩
  times c ns hmem := by
    obtain ⟨hne, hns⟩ := h.times c ns hmem
    exact ⟨hne, UInt64.le_trans hns hle⟩
  stored := h.stored

theorem owner_access {s : State D} [Fintype D] [DecidableEq D]
    (h : (threads D cameraInfo).Reachable s) (c : CameraId) (a : Access) :
    .access c a ∉ code .owner (s.locals .owner) := by
  intro hmem
  obtain ⟨op, hop, heq⟩ := List.mem_filterMap.mp hmem
  cases op with
  | common op =>
    cases heq
    exact (reachable_ops h).metrics c a hop
  | _ => cases heq

theorem Touches.first {s s' : Core D} {ops : List CommonOp} (h : Touches s s' ops)
    (c : CameraId) : (s'.metrics c).firstMonotonicNs = (s.metrics c).firstMonotonicNs ∨
      ∃ ns rest, ops = .access c (.setFirst ns) :: rest := by
  obtain hm | ⟨spurious, c', a, rest, rfl, hm⟩ := h
  · rw [hm]
    exact .inl rfl
  · rw [hm]
    by_cases hc : c = c'
    · subst hc
      rw [Function.update_self]
      exact (first_exec spurious _ a).imp_right fun ⟨_, ha⟩ => ⟨_, rest, by rw [← ha]⟩
    · rw [Function.update_of_ne hc]
      exact .inl rfl

theorem watchClock_clock {e : Σ i : Thread D, Act i} {s : State D} {r : RateTimer}
    (h : (rateTimer.watch e s r).steady = true) : r.steady = true ∧
      r.clockNs ≤ (rateTimer.watch e s r).clockNs ∧
      ∀ ns, clockReading e s = some ns → ns ≠ 0 ∧ (rateTimer.watch e s r).clockNs = ns := by
  have hframes : (rateTimer.watch e s r).steady = (watchClock e s r).steady ∧
      (rateTimer.watch e s r).clockNs = (watchClock e s r).clockNs := by
    show (watchFrames e s (watchClock e s r)).steady = _ ∧
      (watchFrames e s (watchClock e s r)).clockNs = _
    unfold watchFrames
    split <;> exact ⟨rfl, rfl⟩
  rw [hframes.1] at h
  rw [hframes.2]
  unfold watchClock at h ⊢
  cases hread : clockReading e s with
  | none => exact ⟨by simpa only [hread] using h, UInt64.le_refl _, nofun⟩
  | some nowNs =>
    simp only [hread, RateTimer.read, Bool.and_eq_true, decide_eq_true_eq] at h
    obtain ⟨⟨hsteady, hpos⟩, hle⟩ := h
    refine ⟨hsteady, hle, fun ns hns => ?_⟩
    obtain rfl := Option.some.inj hns
    exact ⟨(UInt64.ne_of_lt hpos).symm, rfl⟩

theorem rateTimer_counted (e : Σ i : Thread D, Act i) (s : State D) (r : RateTimer) :
    (rateTimer.watch e s r).counted = (countedFrame e s).elim r.counted fun x =>
      Function.update r.counted x.1 (r.counted x.1 ++ [x.2]) := by
  have hread : (watchClock e s r).counted = r.counted := by
    unfold watchClock
    split <;> rfl
  show (watchFrames e s (watchClock e s r)).counted = _
  unfold watchFrames
  cases countedFrame e s <;> simp only [RateTimer.count, hread, Option.elim_none, Option.elim_some]

theorem rateTimer_counted_grows (e : Σ i : Thread D, Act i) (s : State D) (r : RateTimer)
    (c : CameraId) : r.counted c <+: (rateTimer.watch e s r).counted c := by
  rw [rateTimer_counted]
  cases countedFrame e s with
  | none => exact List.prefix_refl _
  | some x =>
    rw [Option.elim_some]
    by_cases hc : c = x.1
    · rw [hc, Function.update_self]
      exact List.prefix_append _ _
    · rw [Function.update_of_ne hc]

theorem countedFrame_eq_some {i : Thread D} {a : Act i} {s : State D} {c : CameraId} {ns : UInt64}
    (h : countedFrame ⟨i, a⟩ s = some (c, ns)) : ∃ d rest, i = .dispatcher d ∧
      (s.locals (.dispatcher d) : Code CallbackPc).pending = .access c (.setFirst ns) :: rest := by
  cases i with
  | owner => cases h
  | worker c => cases h
  | dispatcher d =>
    simp only [countedFrame] at h
    split at h <;> cases h
    exact ⟨d, _, rfl, ‹_›⟩

section Step
variable [Fintype D] [DecidableEq D]

theorem step_setFirst {s : State D} {i : Thread D} {a : Act i} {s' : Core D} {l' : Local i}
    (h : (threads D cameraInfo).step i a s.shared (s.locals i) = some (s', l'))
    (howner : ∀ c a, .access c a ∉ code .owner (Function.update s.locals i l' .owner))
    {j : Thread D} {c : CameraId} {ns : UInt64}
    (hmem : .access c (.setFirst ns) ∈ code j (Function.update s.locals i l' j)) :
    .access c (.setFirst ns) ∈ code j (s.locals j) ∨
      (∃ d, j = .dispatcher d) ∧ clockReading ⟨i, a⟩ s = some ns := by
  by_cases hj : j = i
  · subst hj
    cases j with
    | owner => exact absurd hmem (howner c _)
    | dispatcher d =>
      rw [Function.update_self] at hmem
      refine (callback_setFirst h hmem).imp id ?_
      rintro ⟨⟨status, info, rfl⟩, henabled⟩
      exact ⟨⟨d, rfl⟩, if_pos henabled⟩
    | worker c' =>
      rw [Function.update_self] at hmem
      exact .inl (worker_setFirst (workerLoop_step h).2 hmem)
  · rw [Function.update_of_ne hj] at hmem
    exact .inl hmem

omit [Fintype D] in
theorem callback_access {d : D} {a : CallbackAct} {s s' : Core D} {l l' : Code CallbackPc}
    {op : CommonOp} {rest : List CommonOp} (h : frameSetTrampoline d a s l = some (s', l'))
    (hpending : l.pending = op :: rest) : ∃ spurious, s' = (op.exec spurious s).1 := by
  cases frameSetTrampoline_step h with
  | common spurious op' ops pc =>
    obtain ⟨rfl, -⟩ := List.cons.inj hpending
    exact ⟨spurious, rfl⟩
  | _ => cases hpending

theorem step_first {s : State D} {i : Thread D} {a : Act i} {s' : Core D} {l' : Local i}
    {r : RateTimer} {clockNs : UInt64}
    (h : (threads D cameraInfo).step i a s.shared (s.locals i) = some (s', l'))
    (hok : ClockOk s clockNs r.counted) (c : CameraId) :
    (s'.metrics c).firstMonotonicNs = firstOf ((rateTimer.watch ⟨i, a⟩ s r).counted c) := by
  rw [rateTimer_counted]
  cases hframe : countedFrame ⟨i, a⟩ s with
  | none =>
    show _ = firstOf (r.counted c)
    rw [← hok.stored c]
    refine ((threads_touches h).first c).resolve_right ?_
    rintro ⟨ns, rest, hops⟩
    obtain ⟨⟨d, rfl⟩, -⟩ := hok.pending i c ns (hops ▸ List.mem_cons_self)
    replace hops : (s.locals (.dispatcher d) : Code CallbackPc).pending = _ := hops
    simp [countedFrame, hops] at hframe
  | some x =>
    obtain ⟨c', ns⟩ := x
    obtain ⟨d, rest, rfl, hpending⟩ := countedFrame_eq_some hframe
    obtain ⟨spurious, rfl⟩ := callback_access h hpending
    by_cases hc : c = c'
    · subst hc
      simp only [CommonOp.exec, Access.exec, Option.elim_some, Function.update_self]
      rw [firstOf_concat fun t ht => (hok.times c t ht).1, ← hok.stored c]
      split <;> rfl
    · simp only [CommonOp.exec, Option.elim_some, Function.update_of_ne hc]
      exact hok.stored c

theorem clockOk_step {s t : State D} {e : Σ i : Thread D, Act i} {r : RateTimer}
    (hs : (threads D cameraInfo).Reachable s)
    (hn : (threads D cameraInfo).toSystem.next e s = some t)
    (hsteady : (rateTimer.watch e s r).steady = true) (h : ClockOk s r.clockNs r.counted) :
    ClockOk t (rateTimer.watch e s r).clockNs (rateTimer.watch e s r).counted := by
  obtain ⟨i, a⟩ := e
  obtain ⟨-, hle, hread⟩ := watchClock_clock hsteady
  have ht := hs.next hn
  obtain ⟨s', l', hst, rfl⟩ := Threads.next_eq_some hn
  have h' := h.mono hle
  refine ⟨fun j c ns hmem => ?_, fun c ns hmem => ?_, fun c => step_first hst h c⟩
  · obtain hold | ⟨hd, hnew⟩ := step_setFirst hst (owner_access ht) hmem
    · exact h'.pending j c ns hold
    · obtain ⟨hne, hclock⟩ := hread ns hnew
      exact ⟨hd, hne, hclock ▸ UInt64.le_refl _⟩
  · rw [rateTimer_counted] at hmem
    cases hframe : countedFrame ⟨i, a⟩ s with
    | none =>
      rw [hframe] at hmem
      exact h'.times c ns hmem
    | some x =>
      rw [hframe, Option.elim_some] at hmem
      obtain ⟨c', ns'⟩ := x
      -- a frame is counted with a reading that the callback has taken before
      obtain ⟨d, rest, rfl, hpending⟩ := countedFrame_eq_some hframe
      by_cases hc : c = c'
      · subst hc
        rw [Function.update_self, List.mem_append, List.mem_singleton] at hmem
        rcases hmem with hmem | rfl
        · exact h'.times c ns hmem
        · have hnext : .access c (.setFirst ns) ∈ (s.locals (.dispatcher d) : Code _).pending :=
            hpending ▸ List.mem_cons_self
          exact (h'.pending (.dispatcher d) c ns hnext).2
      · rw [Function.update_of_ne hc] at hmem
        exact h'.times c ns hmem

end Step

/-! ### Windows -/

/-- The windows of one camera: each after the first starts where the one before ended, and no
later than it ends. The first starts at the first frame counted when its snapshot looked for it,
or at 0 exactly when there was none; and it starts no later than it ends if a frame was counted
already when the timer read the clock, or if there was still none for the snapshot. -/
structure Intervals (counted opened seen : List UInt64) (records : List PublicationRateSnapshot) :
    Prop where
  adjacent : ∀ x ∈ Adjacent.pairs records,
    x.2.intervalStartMonotonicNs = x.1.intervalEndMonotonicNs
  ordered : ∀ x ∈ Adjacent.pairs records,
    x.2.intervalStartMonotonicNs ≤ x.2.intervalEndMonotonicNs
  looks : records ≠ [] → opened <+: seen ∧ seen <+: counted
  first : ∀ w, records.head? = some w → w.intervalStartMonotonicNs = firstOf seen
  none_iff : records ≠ [] → (firstOf seen = 0 ↔ seen = [])
  forward : ∀ w, records.head? = some w → opened ≠ [] ∨ seen = [] →
    w.intervalStartMonotonicNs ≤ w.intervalEndMonotonicNs

section Windows
variable {counted opened seen : List UInt64} {nowNs : UInt64} {log : RateLog}
  {value : PublicationRateSnapshot}

theorem intervals_nil : Intervals counted opened seen [] := by
  constructor <;> simp

theorem Intervals.count {records : List PublicationRateSnapshot} {counted' : List UInt64}
    (h : Intervals counted opened seen records) (hcounted : counted <+: counted') :
    Intervals counted' opened seen records :=
  { h with looks := fun hne => ⟨(h.looks hne).1, (h.looks hne).2.trans hcounted⟩ }

theorem Intervals.open (hprevious : log.previous.intervalEndMonotonicNs = 0)
    (hlooks : opened <+: seen ∧ seen <+: counted) (hpositive : ∀ ns ∈ counted, ns ≠ 0)
    (hopened : firstOf opened ≤ value.intervalEndMonotonicNs)
    (hvalue : value.intervalStartMonotonicNs = firstOf seen) :
    Intervals counted opened seen [rateRecord log.previous value] := by
  have hstart : (rateRecord log.previous value).intervalStartMonotonicNs = firstOf seen :=
    (if_pos hprevious).trans hvalue
  refine ⟨nofun, nofun, fun _ => hlooks, ?_, fun _ => ⟨fun hzero => ?_, ?_⟩, ?_⟩
  · rintro w ⟨⟩
    exact hstart
  · cases seen with
    | nil => rfl
    | cons ns times => exact absurd hzero (hpositive ns (hlooks.2.subset List.mem_cons_self))
  · rintro rfl
    rfl
  · rintro w ⟨⟩ hframe
    rw [hstart]
    rcases hframe with hframe | rfl
    · rw [firstOf_grows hlooks.1 hframe]
      exact hopened
    · exact UInt64.zero_le

theorem Intervals.extend {w : PublicationRateSnapshot}
    (h : Intervals counted opened seen log.records) (hlast : log.records.getLast? = some w)
    (hend : w.intervalEndMonotonicNs = log.previous.intervalEndMonotonicNs)
    (hne : log.previous.intervalEndMonotonicNs ≠ 0)
    (hle : log.previous.intervalEndMonotonicNs ≤ value.intervalEndMonotonicNs) :
    Intervals counted opened seen (log.records ++ [rateRecord log.previous value]) := by
  have hstart : (rateRecord log.previous value).intervalStartMonotonicNs =
      log.previous.intervalEndMonotonicNs := if_neg hne
  have hsome : log.records ≠ [] := by
    rintro hnil
    rw [hnil] at hlast
    cases hlast
  have hhead : (log.records ++ [rateRecord log.previous value]).head? = log.records.head? := by
    cases hr : log.records with
    | nil => exact absurd hr hsome
    | cons a l => rfl
  refine ⟨?_, ?_, fun _ => h.looks hsome, ?_, fun _ => h.none_iff hsome, ?_⟩
  · rw [Adjacent.pairs_concat hlast, List.forall_mem_append, List.forall_mem_singleton]
    exact ⟨h.adjacent, hstart.trans hend.symm⟩
  · rw [Adjacent.pairs_concat hlast, List.forall_mem_append, List.forall_mem_singleton]
    refine ⟨h.ordered, ?_⟩
    rw [hstart]
    exact hle
  · rw [hhead]
    exact h.first
  · rw [hhead]
    exact h.forward

def RatePc.nowNs? : RatePc → Option UInt64
  | .idle => none
  | .camera nowNs _ => some nowNs
  | .loading nowNs _ _ _ _ => some nowNs

/-- What the snapshot of a first window has found when it has looked for the first frame. -/
def Found (r : RateTimer) (c : CameraId) (value : PublicationRateSnapshot) : Prop :=
  (r.logs c).records = [] → r.opened c <+: r.seen c ∧ r.seen c <+: r.counted c ∧
    value.intervalStartMonotonicNs = firstOf (r.seen c)

/-- What the timer knows of the windows of a camera. -/
structure WindowOk (r : RateTimer) (c : CameraId) : Prop where
  previous : (r.logs c).previous.intervalEndMonotonicNs ≤ r.clockNs
  written : ((r.logs c).records = [] ∧ (r.logs c).previous.intervalEndMonotonicNs = 0) ∨
    ∃ w, (r.logs c).records.getLast? = some w ∧
      w.intervalEndMonotonicNs = (r.logs c).previous.intervalEndMonotonicNs ∧
      (r.logs c).previous.intervalEndMonotonicNs ≠ 0
  intervals : Intervals (r.counted c) (r.opened c) (r.seen c) (r.logs c).records
  now : ∀ nowNs, r.pc.nowNs? = some nowNs → nowNs ≠ 0 ∧ nowNs ≤ r.clockNs ∧
    (r.logs c).previous.intervalEndMonotonicNs ≤ nowNs ∧
    ((r.logs c).records = [] → r.opened c <+: r.counted c ∧ firstOf (r.opened c) ≤ nowNs)
  loading : ∀ nowNs value loads todo, r.pc = .loading nowNs c value loads todo →
    value.intervalEndMonotonicNs = nowNs ∧ (.first ∉ loads → Found r c value)

variable {r r' : RateTimer} {c : CameraId}

theorem WindowOk.step (h : WindowOk r c) (hw : Watches r r') (hclock : r.clockNs ≤ r'.clockNs)
    (hcounted : r.counted c <+: r'.counted c) : WindowOk r' c := by
  obtain ⟨hpc, hlogs, hopened, hseen⟩ := hw
  constructor
  case previous => exact hlogs ▸ UInt64.le_trans h.previous hclock
  case written => exact hlogs ▸ h.written
  case intervals => exact hlogs ▸ hopened ▸ hseen ▸ h.intervals.count hcounted
  case now =>
    intro nowNs hnow
    obtain ⟨h1, h2, h3, h4⟩ := h.now nowNs (hpc ▸ hnow)
    rw [hlogs, hopened]
    exact ⟨h1, UInt64.le_trans h2 hclock, h3, fun hnil => ⟨(h4 hnil).1.trans hcounted, (h4 hnil).2⟩⟩
  case loading =>
    intro nowNs value loads todo hload
    obtain ⟨h1, h2⟩ := h.loading nowNs value loads todo (hpc ▸ hload)
    refine ⟨h1, fun hmem hnil => ?_⟩
    obtain ⟨hprompt, hlooked, hstart⟩ := h2 hmem (hlogs ▸ hnil)
    rw [hopened, hseen]
    exact ⟨hprompt, hlooked.trans hcounted, hstart⟩

theorem WindowOk.tick {pc : RatePc} {opened : CameraId → List UInt64} (h : WindowOk r c)
    (htimes : ∀ ns ∈ r.counted c, ns ≤ r.clockNs) (hsteady : (r.read nowNs).steady = true)
    (hopened : opened c = if r.unopened c then r.counted c else r.opened c)
    (hpc : pc = .camera nowNs cameras) :
    WindowOk { r.read nowNs with pc := pc, opened := opened } c := by
  simp only [RateTimer.read, Bool.and_eq_true, decide_eq_true_eq] at hsteady
  obtain ⟨⟨-, hpos⟩, hle⟩ := hsteady
  have hne : nowNs ≠ 0 := (UInt64.ne_of_lt hpos).symm
  have hprevious := UInt64.le_trans h.previous hle
  have hwindow : Intervals (r.counted c) (opened c) (r.seen c) (r.logs c).records ∧
      ((r.logs c).records = [] → opened c <+: r.counted c ∧ firstOf (opened c) ≤ nowNs) := by
    rw [hopened, RateTimer.unopened]
    cases hrecords : (r.logs c).records with
    | nil =>
      have hfirst := UInt64.le_trans (firstOf_le htimes) hle
      exact ⟨intervals_nil, fun _ => ⟨List.prefix_refl _, hfirst⟩⟩
    | cons w ws =>
      have hintervals := h.intervals
      rw [hrecords] at hintervals
      exact ⟨hintervals, nofun⟩
  subst hpc
  refine ⟨hprevious, h.written, hwindow.1, ?_, fun _ _ _ _ hload => by cases hload⟩
  rintro _ ⟨⟩
  exact ⟨hne, UInt64.le_refl _, hprevious, hwindow.2⟩

theorem WindowOk.move {pc : RatePc} (h : WindowOk r c)
    (hnow : ∀ nowNs, pc.nowNs? = some nowNs → r.pc.nowNs? = some nowNs)
    (hload : ∀ nowNs value loads todo, pc ≠ .loading nowNs c value loads todo ∨
      value.intervalEndMonotonicNs = nowNs ∧ .first ∈ loads) :
    WindowOk { r with pc := pc } c :=
  { h with
    now := fun nowNs hpc => h.now nowNs (hnow nowNs hpc)
    loading := fun nowNs value loads todo hpc => by
      obtain ⟨hend, hmem⟩ := (hload nowNs value loads todo).resolve_left (absurd hpc)
      exact ⟨hend, absurd hmem⟩ }

theorem Load.exec_times (m : Metrics) (value : PublicationRateSnapshot) (l : Load) :
    (l.exec m value).intervalEndMonotonicNs = value.intervalEndMonotonicNs ∧
      (l ≠ .first → (l.exec m value).intervalStartMonotonicNs = value.intervalStartMonotonicNs) := by
  cases l with
  | first => exact ⟨rfl, fun hne => absurd rfl hne⟩
  | _ => exact ⟨rfl, fun _ => rfl⟩

theorem WindowOk.load {c' : CameraId} {l : Load} {loads : List Load} {todo : List CameraId}
    {m : Metrics} {seen : CameraId → List UInt64}
    (hpc : r.pc = .loading nowNs c' value (l :: loads) todo)
    (hseen : seen = if l = .first ∧ r.unopened c' then Function.update r.seen c' (r.counted c')
      else r.seen)
    (hm : c = c' → m.firstMonotonicNs = firstOf (r.counted c)) (h : WindowOk r c) :
    WindowOk { r with pc := .loading nowNs c' (l.exec m value) loads todo, seen := seen } c := by
  obtain ⟨hne, hclock, hle, hopened⟩ := h.now nowNs (by rw [hpc]; rfl)
  -- only the look of the camera's own first snapshot is remembered
  have hkeep : (r.logs c).records ≠ [] ∨ c ≠ c' ∨ l ≠ .first → seen c = r.seen c := by
    intro hcase
    rw [hseen]
    split
    · obtain ⟨rfl, hnil⟩ := ‹_ ∧ _›
      have hc : c ≠ c' := by
        rintro rfl
        obtain hsome | hc | hl := hcase
        · exact hsome (List.isEmpty_iff.mp hnil)
        · exact hc rfl
        · exact hl rfl
      exact Function.update_of_ne hc _ _
    · rfl
  constructor
  case previous => exact h.previous
  case written => exact h.written
  case intervals =>
    show Intervals (r.counted c) (r.opened c) (seen c) (r.logs c).records
    by_cases hnil : (r.logs c).records = []
    · rw [hnil]
      exact intervals_nil
    · rw [hkeep (.inl hnil)]
      exact h.intervals
  case now =>
    rintro _ ⟨⟩
    exact ⟨hne, hclock, hle, hopened⟩
  case loading =>
    intro _ _ _ _ hload
    cases hload
    obtain ⟨hend, hfound⟩ := h.loading nowNs value (l :: loads) todo hpc
    obtain ⟨hendEq, hstartEq⟩ := Load.exec_times m value l
    refine ⟨hendEq.trans hend, fun hmem hnil => ?_⟩
    show r.opened c <+: seen c ∧ seen c <+: r.counted c ∧ _ = firstOf (seen c)
    by_cases hl : l = .first
    · -- the look finds what has been counted by now
      have hlook : seen c = r.counted c := by
        rw [hseen, if_pos ⟨hl, List.isEmpty_iff.mpr hnil⟩, Function.update_self]
      subst hl
      rw [hlook]
      exact ⟨(hopened hnil).1, List.prefix_refl _, hm rfl⟩
    · have hbefore : .first ∉ l :: loads :=
        fun h => (List.mem_cons.mp h).elim (fun h => hl h.symm) hmem
      obtain ⟨hprompt, hlooked, hstart⟩ := hfound hbefore hnil
      rw [hkeep (.inr (.inr hl))]
      exact ⟨hprompt, hlooked, (hstartEq hl).trans hstart⟩

theorem WindowOk.write {c' : CameraId} {todo : List CameraId}
    (hpc : r.pc = .loading nowNs c' value [] todo) (hpositive : ∀ ns ∈ r.counted c, ns ≠ 0)
    (h : WindowOk r c) :
    WindowOk { r with
      pc := .camera nowNs todo
      logs := Function.update r.logs c' ((r.logs c').write value) } c := by
  obtain ⟨hne, hclock, hle, hopened⟩ := h.now nowNs (by rw [hpc]; rfl)
  by_cases hc : c = c'
  · subst hc
    obtain ⟨hend, hvalue⟩ := h.loading nowNs value [] todo hpc
    have hintervals : Intervals (r.counted c) (r.opened c) (r.seen c)
        ((r.logs c).records ++ [rateRecord (r.logs c).previous value]) := by
      -- the first record opens the intervals, a later one starts where the last has ended
      obtain ⟨hnil, hzero⟩ | ⟨w, hlast, hw, hprevious⟩ := h.written
      · obtain ⟨hprompt, hlooked, hstart⟩ := hvalue List.not_mem_nil hnil
        rw [hnil]
        exact .open hzero ⟨hprompt, hlooked⟩ hpositive (hend ▸ (hopened hnil).2) hstart
      · exact h.intervals.extend hlast hw hprevious (hend ▸ hle)
    constructor
    case previous =>
      simp only [Function.update_self]
      exact hend ▸ hclock
    case written =>
      simp only [Function.update_self]
      exact .inr ⟨_, List.getLast?_concat, rfl, hend ▸ hne⟩
    case intervals =>
      simp only [Function.update_self]
      exact hintervals
    case now =>
      rintro _ ⟨⟩
      simp only [Function.update_self]
      refine ⟨hne, hclock, hend ▸ UInt64.le_refl _, fun hnil => ?_⟩
      exact absurd hnil (List.append_ne_nil_of_right_ne_nil _ (by simp))
    case loading =>
      intro _ _ _ _ hload
      cases hload
  · constructor
    case loading =>
      intro _ _ _ _ hload
      cases hload
    all_goals simp only [Function.update_of_ne hc]
    case previous => exact h.previous
    case written => exact h.written
    case intervals => exact h.intervals
    case now =>
      rintro _ ⟨⟩
      exact ⟨hne, hclock, hle, hopened⟩

end Windows

theorem steady_before {s : State D} {b : RateAct} {r r' : RateTimer}
    (h : logRateMetrics b s r = some r') (hsteady : r'.steady = true) : r.steady = true := by
  unfold logRateMetrics at h
  split at h
  · split at h
    · split at h <;> cases h
      simp only [RateTimer.read, Bool.and_eq_true] at hsteady
      exact hsteady.1.1
    · cases h
  · split at h <;> cases h <;> exact hsteady

theorem logRateMetrics_windowOk {s : State D} {b : RateAct} {r r' : RateTimer} {c : CameraId}
    (hclock : ClockOk s r.clockNs r.counted) (hr : WindowOk r c)
    (h : logRateMetrics b s r = some r') (hsteady : r'.steady = true) :
    ClockOk s r'.clockNs r'.counted ∧ WindowOk r' c := by
  obtain ⟨pc, logs, clockNs, steady, counted, opened, seen⟩ := r
  have htimes := hclock.times c
  cases b with
  | tick nowNs =>
    cases pc with
    | idle =>
      obtain ⟨-, h⟩ := Option.ite_none_right_eq_some.mp h
      cases h
      have hle : clockNs ≤ nowNs := by
        simp only [RateTimer.read, Bool.and_eq_true, decide_eq_true_eq] at hsteady
        exact hsteady.2
      exact ⟨hclock.mono hle, hr.tick (fun ns hns => (htimes ns hns).2) hsteady rfl rfl⟩
    | camera nowNs todo => cases h
    | loading nowNs c' value loads todo => cases h
  | step =>
    cases pc with
    | idle => cases h
    | camera nowNs todo =>
      cases todo with
      | nil =>
        cases h
        exact ⟨hclock, hr.move nofun fun _ _ _ _ => .inl nofun⟩
      | cons c' todo =>
        cases h
        refine ⟨hclock, hr.move (fun now hnow => ?_) fun now value loads todo => ?_⟩
        · split at hnow <;> exact hnow
        · -- the snapshot starts before any load
          split
          · by_cases hload : loads = Metrics.snapshot ∧ value = snapshotAt nowNs ∧ now = nowNs
            · obtain ⟨rfl, rfl, rfl⟩ := hload
              exact .inr ⟨rfl, by decide⟩
            · refine .inl fun heq => ?_
              cases heq
              exact hload ⟨rfl, rfl, rfl⟩
          · exact .inl nofun
    | loading nowNs c' value loads todo =>
      cases loads with
      | nil =>
        cases h
        exact ⟨hclock, hr.write rfl fun ns hns => (htimes ns hns).1⟩
      | cons l loads =>
        cases h
        exact ⟨hclock, hr.load rfl rfl fun hc => hc ▸ hclock.stored c⟩

/-- On a steady clock the windows of each camera are adjacent intervals, apart from a first
window that the camera's first frame was too late for. -/
theorem camera_intervals [Fintype D] [DecidableEq D] {x : State D × RateTimer}
    (h : (rateSystem D cameraInfo).Reachable x) (hsteady : x.2.steady = true) (c : CameraId) :
    Intervals (x.2.counted c) (x.2.opened c) (x.2.seen c) (x.2.logs c).records := by
  have key : x.2.steady = true → ClockOk x.1 x.2.clockNs x.2.counted ∧ WindowOk x.2 c := by
    refine System.Reachable.observe (M := (threads D cameraInfo).toSystem) (O := rateTimer)
      (Q := fun _ => True) (P := fun s r => r.steady = true → ClockOk s r.clockNs r.counted ∧
        WindowOk r c) ?_ ?_ ?_ ?_ h trivial
    · intro _
      refine ⟨⟨?_, fun _ _ hmem => absurd hmem List.not_mem_nil, fun _ => rfl⟩,
        ⟨UInt64.le_refl _, .inl ⟨rfl, rfl⟩, intervals_nil, nofun, nofun⟩⟩
      rintro (_ | _ | _) c ns hmem <;> cases hmem
    · exact fun _ _ _ _ _ _ => trivial
    · intro s e t r hs hn _ hr hsteady
      obtain ⟨hbefore, hle, -⟩ := watchClock_clock hsteady
      obtain ⟨hclock, hwindow⟩ := hr hbefore
      refine ⟨clockOk_step hs hn hsteady hclock,
        hwindow.step (rateTimer_watches e s r) hle (rateTimer_counted_grows e s r c)⟩
    · intro s b r r' _ hact _ hr hsteady
      obtain ⟨hclock, hwindow⟩ := hr (steady_before hact hsteady)
      exact logRateMetrics_windowOk hclock hwindow hact hsteady
  exact (key hsteady).2.intervals

theorem camera_intervals_logged :
    ((loggedEnd.2.logs 0).records.map fun w =>
      (w.intervalStartMonotonicNs, w.intervalEndMonotonicNs)) = [(9, 20), (20, 30)] ∧
    Intervals [9] [9] [9] (loggedEnd.2.logs 0).records :=
  ⟨by decide, camera_intervals (x := loggedEnd) (System.reachable_get _) (by decide) 0⟩

def lateFrameRun : List ((Σ i : Thread Unit, Act i) ⊕ RateAct) :=
  (startRun rateConfig).map .inl ++ [.inr (.tick 10)] ++ (countFrame 7 20).map .inl ++
    (List.replicate 20 .step).map .inr

def lateFrameEnd : State Unit × RateTimer :=
  ((rateSystem Unit false).run lateFrameRun (rateSystem Unit false).start).get rfl

theorem inverted_first_window : ¬ ∀ x, (rateSystem Unit false).Reachable x →
    x.2.steady = true → ∀ c,
      (∀ w ∈ (x.2.logs c).records, w.intervalStartMonotonicNs ≤ w.intervalEndMonotonicNs) ∧
      ∀ p ∈ Adjacent.pairs (x.2.logs c).records,
        p.2.intervalStartMonotonicNs = p.1.intervalEndMonotonicNs := by
  intro hall
  have hrecords : ((lateFrameEnd.2.logs 0).records.map fun w =>
      (w.intervalStartMonotonicNs, w.intervalEndMonotonicNs)) = [(20, 10)] := by decide
  obtain ⟨w, hw, heq⟩ := List.mem_map.mp (hrecords ▸ List.mem_singleton_self (20, 10))
  have hle := (hall lateFrameEnd (System.reachable_get _) (by decide) 0).1 w hw
  rw [(Prod.mk.inj heq).1, (Prod.mk.inj heq).2] at hle
  exact absurd hle (by decide)

end RoboBaton.Camera
