import RoboBaton.Camera.Contract

/-! The references to frames over whole runs: every frame that is retained and not released
has an owner, and a finished cleanup leaves none. -/

namespace RoboBaton.Camera
open Trace Discipline Transition
variable {D : Type} [Fintype D] [DecidableEq D] {cameraInfo : Bool} {s : State D}

/-- The jobs that own the frame: in a queue, in the hands of a callback or of a worker, or in
a batch that `CleanupLocked` has detached. -/
def owners (f : Frame) (s : State D) : Nat :=
  queued f s.shared + ∑ i, countOwners f (heldJobs i (s.locals i))

theorem step_balanced (h : (threads D cameraInfo).Reachable s) (f : Frame) {i : Thread D}
    {a : Act i} {s' : Core D} {l' : Local i}
    (hst : (threads D cameraInfo).step i a s.shared (s.locals i) = some (s', l')) :
    Balanced f s.shared s' (heldJobs i (s.locals i)) (heldJobs i l') := by
  cases i with
  | owner =>
    rcases ownerStep_cases hst with ⟨rfl, -, hdetached, -⟩ | ⟨op, rest, hops, he⟩
    · exact .quiet rfl rfl (fun _ => rfl) (congrArg (countOwners f) hdetached)
    · refine owner_balanced (fun c hop => ?_) (exec_effect he)
      have hsafe := ((reachable_core h).2 .owner : OwnerOk s.shared (s.locals .owner)).safe
      rw [hops, hop] at hsafe
      exact hsafe.1 (.noQueue c) (by simp)
  | dispatcher d => exact callback_balanced (frameSetTrampoline_step hst)
  | worker c => exact worker_balanced (workerLoop_step hst).2

theorem references_balance (h : (threads D cameraInfo).Reachable s) (f : Frame) :
    s.shared.retained.count f = s.shared.released.count f + owners f s := by
  have key := Threads.Reachable.balance (T := threads D cameraInfo) (fun s => s.retained.count f)
    (fun s => s.released.count f + queued f s) (fun i l => countOwners f (heldJobs i l)) ?_ ?_ h
  · rw [owners, ← Nat.add_assoc]
    exact key
  · have hheld : ∑ i : Thread D, countOwners f (heldJobs i ((threads D cameraInfo).locals i)) = 0 :=
      Finset.sum_eq_zero fun i _ => by cases i <;> rfl
    rw [hheld]
    have hqueued : queued f (threads D cameraInfo).shared = 0 :=
      Finset.sum_eq_zero fun c _ => rfl
    rw [hqueued]
    rfl
  · intro s i a s' l' hs hst
    have := step_balanced hs f hst
    rw [Balanced] at this
    omega

/-! ### After the cleanup -/

omit [DecidableEq D] in
theorem exec_complete {op : OwnerOp} {rest : List OwnerOp} {a : OwnerAct} {s s' : Core D}
    {l : OwnerLocal} {detached : List RetainedFrameJob}
    (h : op.exec s detached rest a = some (s', l)) (hs : s'.cleanupComplete = true) :
    s.cleanupComplete = true ∨ op = .finishCleanup := by
  cases exec_step h with
  | common op => exact .inl (by cases op <;> exact hs)
  | finishCleanup => exact .inr rfl
  | _ => exact .inl hs

omit [DecidableEq D] in
theorem exec_emptied {op : OwnerOp} {rest : List OwnerOp} {a : OwnerAct} {s s' : Core D}
    {l : OwnerLocal} {detached : List RetainedFrameJob}
    (hsafe : rules.Safe (Holds s) (op :: rest)) (hbatches : BatchesOk ⟨op :: rest, detached⟩)
    (ih : s.cleanupComplete = true → detached = [])
    (h : op.exec s detached rest a = some (s', l)) (hs : s'.cleanupComplete = true) :
    l.detached = [] := by
  have hempty : detached = [] := by
    rcases exec_complete h hs with hc | rfl
    · exact ih hc
    · exact hbatches.1 () (by simp)
  obtain ⟨ops, detached'⟩ := l
  cases exec_effect h with
  | detach c q hq =>
    have hincomplete : s.cleanupComplete = false := hsafe.1 .incomplete (by simp)
    exact absurd (hincomplete.symm.trans hs) (by simp)
  | release job _ hd =>
    rw [hempty] at hd
    cases hd
  | _ => exact hempty

theorem complete_emptied (h : (threads D cameraInfo).Reachable s) :
    s.shared.cleanupComplete = true → (s.locals .owner : OwnerLocal).detached = [] := by
  refine System.Reachable.invariant (M := (threads D cameraInfo).toSystem)
    (P := fun s => s.shared.cleanupComplete = true →
      (s.locals .owner : OwnerLocal).detached = []) nofun ?_ h
  rintro s ⟨i, a⟩ t hs ih hn hc
  obtain ⟨s', l', hst, rfl⟩ := Threads.next_eq_some hn
  obtain ⟨hL, hok⟩ := reachable_core hs
  have hkept : ∀ {j : Thread D}, Guarantee j s.shared s' → s.shared.cleanupComplete = true := by
    intro j hg
    by_contra hincomplete
    have := hg.survive .incomplete (Bool.eq_false_of_not_eq_true hincomplete) (by simp)
    exact absurd (this.symm.trans hc) (by simp)
  cases i with
  | owner =>
    show (Function.update s.locals .owner l' .owner : OwnerLocal).detached = []
    rw [Function.update_self]
    rcases ownerStep_cases hst with ⟨rfl, -, hdetached, -⟩ | ⟨op, rest, hops, he⟩
    · exact hdetached.trans (ih hc)
    · obtain ⟨hsafe, hbatches⟩ : OwnerOk s.shared (s.locals .owner) := hok .owner
      generalize (s.locals .owner : OwnerLocal) = l at *
      obtain ⟨ops, detached⟩ := l
      cases hops
      exact exec_emptied hsafe hbatches ih he hc
  | dispatcher d =>
    have hg := (callback_ok hL (hok (.dispatcher d)) (frameSetTrampoline_step hst)).2.2
    exact ih (hkept hg)
  | worker c =>
    obtain ⟨hrunning, hstep⟩ := workerLoop_step hst
    exact ih (hkept (worker_ok hL (hok (.worker c)) hrunning hstep).2.2)

theorem Outside.jobs {l : Code CallbackPc} (h : Outside l) : l.pc.jobs = [] := by
  rcases h with rfl | ⟨set, rfl⟩ | rfl <;> rfl

theorem owners_of_complete (h : (threads D cameraInfo).Reachable s)
    (hc : s.shared.cleanupComplete = true) (f : Frame) : owners f s = 0 := by
  obtain ⟨hL, hok⟩ := reachable_core h
  have hreturned := (hL.complete hc).1
  have hclosed := (hL.stop (hL.stopReturned hreturned)).2
  have hqueued : queued f s.shared = 0 := by
    refine Finset.sum_eq_zero fun c _ => ?_
    have hempty : Emptied s.shared c := hclosed (.emptied c) (by simp [closed, cameras])
    rcases hq : s.shared.queues c with _ | q
    · rfl
    · show countOwners f q.queue = 0
      rw [(hempty q hq).2, countOwners_nil]
  have hheld : ∀ i, heldJobs i (s.locals i) = [] := by
    intro i
    cases i with
    | owner => exact complete_emptied h hc
    | dispatcher d => exact ((hok (.dispatcher d) : CallbackOk _ d _).quiesced hreturned).jobs
    | worker c =>
      have hw : WorkerOk s.shared c (s.locals (.worker c)) := hok (.worker c)
      have hjoined : Joined s.shared c := hclosed (.joined c) (by simp [closed, cameras])
      show (s.locals (.worker c) : Code WorkerPc).pc.jobs = []
      rcases hjoined with hnone | hjoined
      · rw [hw.unborn hnone]
        rfl
      · rw [hw.ended (.inr hjoined)]
        rfl
  rw [owners, hqueued, Nat.zero_add]
  exact Finset.sum_eq_zero fun i _ => by rw [hheld i, countOwners_nil]

/-! ### The balance -/

structure ReferenceBalance (cameraInfo : Bool) (s : State D) : Prop where
  balance : ∀ f, (s.shared.retained.count f : ℤ) - s.shared.released.count f = owners f s
  released : ∀ f, s.shared.released.count f ≤ s.shared.retained.count f
  inSink : ∀ c, ∀ job ∈ (s.locals (.worker c) : Code WorkerPc).pc.jobs, ∀ f, job.frame = some f →
    s.shared.released.count f < s.shared.retained.count f
  cleanedUp : .returnCleanup true true ∈ s.shared.events →
    ∀ u, (threads D cameraInfo).toSystem.Later s u → ∀ f,
      u.shared.retained.count f = u.shared.released.count f ∧ owners f u = 0

theorem later_events (h : (threads D cameraInfo).Reachable s) {e : Event}
    (he : e ∈ s.shared.events) {u : State D} (hu : (threads D cameraInfo).toSystem.Later s u) :
    e ∈ u.shared.events := by
  refine System.Later.stable (M := (threads D cameraInfo).toSystem)
    (P := fun u => e ∈ u.shared.events) ?_ h he hu
  rintro v ⟨i, a⟩ w _ hv hn
  obtain ⟨c, l, hst, rfl⟩ := Threads.next_eq_some hn
  exact (threads_events hst).subset hv

omit [DecidableEq D] in
theorem held_le_owners {i : Thread D} {job : RetainedFrameJob}
    (hjob : job ∈ heldJobs i (s.locals i)) {f : Frame} (hf : job.frame = some f) :
    0 < owners f s := by
  have hpos : 0 < countOwners f (heldJobs i (s.locals i)) :=
    List.countP_pos_iff.mpr ⟨job, hjob, by simp [hf]⟩
  have hle : countOwners f (heldJobs i (s.locals i)) ≤
      ∑ j, countOwners f (heldJobs j (s.locals j)) :=
    Finset.single_le_sum (f := fun j => countOwners f (heldJobs j (s.locals j)))
      (fun _ _ => Nat.zero_le _) (Finset.mem_univ i)
  unfold owners
  omega

/-- Whatever the callbacks are given, however they and the sinks fail and whatever the order
of the threads. -/
theorem reference_balance (h : (threads D cameraInfo).Reachable s) :
    ReferenceBalance cameraInfo s := by
  have hbalance := references_balance h
  constructor
  case balance =>
    intro f
    rw [hbalance f]
    omega
  case released =>
    intro f
    rw [hbalance f]
    omega
  case inSink =>
    intro c job hjob f hf
    have hpos := held_le_owners (s := s) (i := .worker c) hjob hf
    rw [hbalance f]
    omega
  case cleanedUp =>
    intro hmem u hu f
    have hreached := hu.reachable h
    have hcomplete := (reachable_core hreached).1.returned (later_events h hmem hu)
    have hnone := owners_of_complete hreached hcomplete f
    exact ⟨by rw [references_balance hreached f, hnone, Nat.add_zero], hnone⟩

/-! ### Runs -/

def sampleInfo : FrameInfo :=
  { structSize := frameInfoSize, cameraId := 0, sequence := 1, timestampNs := 5, yData := some [],
    uvData := some [], ySize := 4, uvSize := 2, width := 2, height := 2, stride := 2, vstride := 2 }

def sampleSet (frame : Frame) : FrameSet := ⟨frameSetSize, 1, fun _ => ⟨0, some frame⟩⟩

def queueFrame (frame : Frame) : List (Σ i : Thread Unit, Act i) :=
  dispatcherDoes () [.callback (some (sampleSet frame)), .step, .step, .info statusOk sampleInfo 9,
    .retained statusOk, .step, .step, .step]

def deliverFrame : List (Σ i : Thread Unit, Act i) :=
  workerDoes 0 [.step, .step, .returns 3, .step, .step]

def deliveredRun : List (Σ i : Thread Unit, Act i) :=
  startRun .default ++ queueFrame 7 ++ deliverFrame ++
    ownerDoes (.cleanup :: List.replicate 15 .step) ++ workerDoes 0 [.step, .step] ++
    ownerDoes (List.replicate 12 .step)

def deliveredEnd : State Unit :=
  ((threads Unit false).toSystem.run deliveredRun (threads Unit false).toSystem.start).get rfl

theorem reference_balance_delivered : 7 ∈ deliveredEnd.shared.retained ∧
    .returnCleanup true true ∈ deliveredEnd.shared.events ∧
    ReferenceBalance false deliveredEnd :=
  ⟨by decide, by decide, reference_balance (System.reachable_get _)⟩

/-- A `Cleanup` before the first `Start`, which does nothing and returns true. -/
def earlyCleanupRun : List (Σ i : Thread Unit, Act i) :=
  ownerDoes [.cleanup, .step, .step] ++ startRun .default ++ queueFrame 7

def earlyCleanupEnd : State Unit :=
  ((threads Unit false).toSystem.run earlyCleanupRun (threads Unit false).toSystem.start).get rfl

/-- A true answer of `Cleanup` on a core that no `Start` has claimed promises nothing. -/
theorem retained_after_cleanup : ¬ ∀ s : State Unit, (threads Unit false).Reachable s →
    (∃ claimed, .returnCleanup claimed true ∈ s.shared.events) →
    ∀ f, s.shared.retained.count f = s.shared.released.count f := by
  intro hall
  have hreturned : .returnCleanup false true ∈ earlyCleanupEnd.shared.events := by decide
  have hretained : earlyCleanupEnd.shared.retained.count 7 ≠
      earlyCleanupEnd.shared.released.count 7 := by decide
  exact hretained (hall earlyCleanupEnd (System.reachable_get _) ⟨false, hreturned⟩ 7)

end RoboBaton.Camera
