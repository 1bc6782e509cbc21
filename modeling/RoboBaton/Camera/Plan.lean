import RoboBaton.Camera.FrameSets
import RoboBaton.Camera.Routing

/-! What a call of `Start` or `Cleanup` that is under way is still going to do: every enabled
camera gets its queue before admission opens, and whoever opens a queue sees to a worker for it
or closes it. -/

namespace RoboBaton.Camera
open Trace Discipline Transition
variable {D : Type} {s s' : Core D}

/-! ### The shape of a call -/

inductive Program : List OwnerOp → Prop
  | entry (config sink notifier) : Program [.startGuard config sink notifier]
  | cleanup : Program [.cleanupGuard .cleanup]
  | branch (ops) (h : ops ∈ programs) : Program ops

def OwnerOp.isEntry : OwnerOp → Bool
  | .startGuard .. => true
  | _ => false

theorem programs_entry : ∀ program ∈ programs, ∀ op ∈ program, op.isEntry = false := by decide

def Shaped (ops : List OwnerOp) : Prop :=
  ∃ (ins : List CommonOp) (rest program : List OwnerOp), ops = ins.map .common ++ rest ∧
    rest <:+ program ∧ Program program

theorem Shaped.suffix {op : OwnerOp} {rest : List OwnerOp} (h : Shaped (op :: rest))
    (hop : ∀ o, op ≠ .common o) : ∃ program, op :: rest <:+ program ∧ Program program := by
  obtain ⟨ins, rest', program, heq, hsuffix, hprogram⟩ := h
  cases ins with
  | nil => exact ⟨program, heq ▸ hsuffix, hprogram⟩
  | cons o ins => exact absurd (List.cons.inj heq).1 (hop o)

theorem Shaped.tail {op : OwnerOp} {rest : List OwnerOp} (h : Shaped (op :: rest)) :
    Shaped rest := by
  obtain ⟨ins, rest', program, heq, hsuffix, hprogram⟩ := h
  cases ins with
  | nil => exact ⟨[], rest, program, rfl, (List.suffix_cons op rest).trans (heq ▸ hsuffix), hprogram⟩
  | cons o ins => exact ⟨ins, rest', program, (List.cons.inj heq).2, hsuffix, hprogram⟩

theorem Shaped.prepend {ops : List OwnerOp} (h : Shaped ops) (ins : List CommonOp) :
    Shaped (ins.map .common ++ ops) := by
  obtain ⟨ins', rest, program, rfl, hsuffix, hprogram⟩ := h
  exact ⟨ins ++ ins', rest, program, by rw [List.map_append, List.append_assoc], hsuffix, hprogram⟩

theorem shaped_program {ops : List OwnerOp} (h : Program ops) : Shaped ops :=
  ⟨[], ops, ops, rfl, List.suffix_refl _, h⟩

theorem Shaped.check {P : List OwnerOp → Bool} {op : OwnerOp} {rest : List OwnerOp}
    (h : Shaped (op :: rest)) (hop : ∀ o, op ≠ .common o)
    (hentry : ∀ config sink notifier, op ≠ .startGuard config sink notifier)
    (hP : ∀ program ∈ [.cleanupGuard .cleanup] :: programs, ∀ ops ∈ program.tails, P ops = true) :
    P (op :: rest) = true := by
  obtain ⟨program, hsuffix, hprogram⟩ := h.suffix hop
  cases hprogram with
  | entry config sink notifier =>
    rcases List.suffix_cons_iff.mp hsuffix with heq | hnil
    · exact absurd (List.cons.inj heq).1 (hentry config sink notifier)
    · exact absurd (List.suffix_nil.mp hnil) (by simp)
  | cleanup => exact hP _ List.mem_cons_self _ ((List.mem_tails _ _).mpr hsuffix)
  | branch _ hmem => exact hP _ (List.mem_cons_of_mem _ hmem) _ ((List.mem_tails _ _).mpr hsuffix)

/-- After a worker has been waited for nothing is started or closed any more, and a queue that
is made is followed by its worker. -/
def placed : List OwnerOp → Bool
  | .makeQueue _ :: rest => cameras.all fun c => .spawnWorker c ∈ rest
  | .openAdmission :: rest => cameras.all fun c => .makeQueue c ∉ rest
  | .joinWorker .. :: rest | .returnStart _ :: rest | .returnCleanup _ :: rest =>
    .openAdmission ∉ rest && .cleanupGuard .start ∉ rest &&
      cameras.all fun c => .spawnWorker c ∉ rest && .makeQueue c ∉ rest &&
        .common (.closeQueue c) ∉ rest
  | .cleanupGuard _ :: rest => rest.isEmpty
  | .validateConfig :: rest => rest.isEmpty
  | _ => true

theorem programs_placed : ∀ program ∈ [.cleanupGuard .cleanup] :: programs,
    ∀ ops ∈ program.tails, placed ops = true := by decide

/-! ### What other threads leave alone -/

structure Holding (s s' : Core D) : Prop where
  queues : ∀ c q', s'.queues c = some q' →
    ∃ q, s.queues c = some q ∧ (q.stopped = true → q'.stopped = true)
  kept : ∀ c, s.queues c ≠ none → s'.queues c ≠ none
  workers : ∀ c, s'.workers c ≠ .none ↔ s.workers c ≠ .none
  config : s'.config = s.config
  opened : s'.admissionOpened = s.admissionOpened

theorem Holding.of_eq (hqueues : s'.queues = s.queues) (hworkers : s'.workers = s.workers)
    (hconfig : s'.config = s.config) (hopened : s'.admissionOpened = s.admissionOpened) :
    Holding s s' :=
  ⟨fun _ q' h => ⟨q', hqueues ▸ h, id⟩, fun _ h => hqueues ▸ h, fun _ => hworkers ▸ Iff.rfl,
    hconfig, hopened⟩

theorem holding_setQueue {c : CameraId} {q q' : FrameQueue} (hq : s.queues c = some q)
    (hstopped : q.stopped = true → q'.stopped = true) : Holding s (s.setQueue c q') where
  queues c' x hx := by
    by_cases hc : c' = c
    · subst hc
      obtain rfl := Option.some.inj ((s.setQueue_self c' q').symm.trans hx)
      exact ⟨q, hq, hstopped⟩
    · exact ⟨x, (s.setQueue_of_ne q' hc).symm.trans hx, id⟩
  kept c' h := by
    by_cases hc : c' = c
    · subst hc
      rw [s.setQueue_self]
      simp
    · rwa [s.setQueue_of_ne q' hc]
  workers _ := Iff.rfl
  config := rfl
  opened := rfl

theorem holding_setWorker {c : CameraId} {status : WorkerStatus} (h : s.workers c ≠ .none)
    (hstatus : status ≠ .none) : Holding s (s.setWorker c status) where
  queues _ q' hq := ⟨q', hq, id⟩
  kept _ := id
  workers c' := by
    by_cases hc : c' = c
    · subst hc
      rw [s.setWorker_self]
      exact ⟨fun _ => h, fun _ => hstatus⟩
    · rw [s.setWorker_of_ne _ hc]
  config := rfl
  opened := rfl

theorem holding_common (spurious : Bool) (s : Core D) (op : CommonOp) :
    Holding s (op.exec spurious s).1 := by
  cases op with
  | closeQueue c =>
    refine ⟨fun c' q' h => ?_, fun c' h => ?_, fun _ => Iff.rfl, rfl, rfl⟩
    · obtain ⟨q, hq, -, hstopped⟩ := closeQueue_some (s := s) (c := c) h
      exact ⟨q, hq, fun hq => hstopped.mp (.inl hq)⟩
    · show Function.update s.queues c ((s.queues c).map FrameQueue.closeAdmission) c' ≠ none
      by_cases hc : c' = c
      · subst hc
        simpa using h
      · rwa [Function.update_of_ne hc]
  | _ => exact .of_eq rfl rfl rfl rfl

theorem callback_holding [DecidableEq D] {d : D} {l l' : Code CallbackPc}
    (h : CallbackStep d s l s' l') : Holding s s' := by
  cases h with
  | common spurious op ops pc => exact holding_common spurious s op
  | pushed scan c job q q' hq hp =>
    obtain ⟨-, -, rfl⟩ := FrameQueue.push_eq_pushed.mp hp
    have hset : Holding s (s.setQueue c { q with queue := q.queue ++ [job] }) :=
      holding_setQueue hq id
    exact ⟨hset.queues, hset.kept, hset.workers, hset.config, hset.opened⟩
  | leave failed => cases failed <;> exact .of_eq rfl rfl rfl rfl
  | _ => exact .of_eq rfl rfl rfl rfl

theorem worker_holding {cameraInfo : Bool} {c : CameraId} {l l' : Code WorkerPc}
    (hrunning : s.workers c = .running) (h : WorkerStep cameraInfo c s l s' l') : Holding s s' := by
  cases h with
  | common spurious op ops pc => exact holding_common spurious s op
  | popped q job q' hq hp =>
    obtain ⟨-, rest, -, rfl⟩ := FrameQueue.pop_eq_popped.mp hp
    have hset : Holding s (s.setQueue c { q with queue := rest }) := holding_setQueue hq id
    exact ⟨hset.queues, hset.kept, hset.workers, hset.config, hset.opened⟩
  | finish failed =>
    have hset : Holding s (s.setWorker c .finished) :=
      holding_setWorker (by simp [hrunning]) (by simp)
    cases failed <;> exact ⟨hset.queues, hset.kept, hset.workers, hset.config, hset.opened⟩
  | _ => exact .of_eq rfl rfl rfl rfl

/-! ### What is built, and what is planned -/

structure Built (s : Core D) : Prop where
  valid : ∀ c, s.queues c ≠ none → s.config.valid = true
  made : s.admissionOpened = true → ∀ c, s.config.cameraEnabled c = true → s.queues c ≠ none
  manned : ∀ c, s.workers c ≠ .none → s.config.cameraEnabled c = true

theorem Holding.built (h : Holding s s') (hB : Built s) : Built s' where
  valid c hc := by
    obtain ⟨q', hq'⟩ := Option.ne_none_iff_exists'.mp hc
    obtain ⟨q, hq, -⟩ := h.queues c q' hq'
    rw [h.config]
    exact hB.valid c (by simp [hq])
  made ho c hc := h.kept c (hB.made (h.opened ▸ ho) c (h.config ▸ hc))
  manned c hc := h.config ▸ hB.manned c ((h.workers c).mp hc)

def Serves (c : CameraId) (ops : List OwnerOp) : Prop :=
  .spawnWorker c ∈ ops ∨ .cleanupGuard .start ∈ ops ∨ .common (.closeQueue c) ∈ ops

structure Planned (s : Core D) (ops : List OwnerOp) : Prop where
  shaped : Shaped ops
  valid : ∀ c, .makeQueue c ∈ ops → s.config.valid = true
  made : .openAdmission ∈ ops → ∀ c, s.config.cameraEnabled c = true →
    s.queues c ≠ none ∨ .makeQueue c ∈ ops
  served : ∀ c q, s.queues c = some q → q.stopped = false → s.workers c ≠ .none ∨ Serves c ops

theorem Holding.planned {ops : List OwnerOp} (h : Holding s s') (hP : Planned s ops) :
    Planned s' ops where
  shaped := hP.shaped
  valid c hc := h.config ▸ hP.valid c hc
  made ho c hc := (hP.made ho c (h.config ▸ hc)).imp_left (h.kept c)
  served c q' hq' hlive := by
    obtain ⟨q, hq, hstopped⟩ := h.queues c q' hq'
    have hopen : q.stopped = false := by
      by_contra hne
      rw [hstopped (Bool.eq_true_of_not_eq_false hne)] at hlive
      cases hlive
    exact (hP.served c q hq hopen).imp_left (h.workers c).mpr

theorem Planned.skip {op : OwnerOp} {rest : List OwnerOp} (hP : Planned s (op :: rest))
    (hmake : ∀ c, op = .makeQueue c → s.config.cameraEnabled c = true → s.queues c ≠ none)
    (hguard : op ≠ .cleanupGuard .start)
    (hserve : ∀ c q, op = .spawnWorker c ∨ op = .common (.closeQueue c) → s.queues c = some q →
      q.stopped = false → s.workers c ≠ .none) : Planned s rest where
  shaped := hP.shaped.tail
  valid c hc := hP.valid c (List.mem_cons_of_mem _ hc)
  made ho c hc := by
    rcases hP.made (List.mem_cons_of_mem _ ho) c hc with hq | hmem
    · exact .inl hq
    · rcases List.mem_cons.mp hmem with heq | hmem
      · exact .inl (hmake c heq.symm hc)
      · exact .inr hmem
  served c q hq hlive := by
    rcases hP.served c q hq hlive with hw | hmem | hmem | hmem
    · exact .inl hw
    · rcases List.mem_cons.mp hmem with heq | hmem
      · exact .inl (hserve c q (.inl heq.symm) hq hlive)
      · exact .inr (.inl hmem)
    · exact .inr (.inr (.inl ((List.mem_cons.mp hmem).resolve_left (Ne.symm hguard))))
    · rcases List.mem_cons.mp hmem with heq | hmem
      · exact .inl (hserve c q (.inr heq.symm) hq hlive)
      · exact .inr (.inr (.inr hmem))

theorem Planned.prepend {ops : List OwnerOp} (hP : Planned s ops) (ins : List CommonOp) :
    Planned s (ins.map .common ++ ops) where
  shaped := hP.shaped.prepend ins
  valid c hc := hP.valid c (by simpa using hc)
  made ho c hc := (hP.made (by simpa using ho) c hc).imp_right (List.mem_append_right _)
  served c q hq hlive := (hP.served c q hq hlive).imp_right fun h =>
    h.imp (List.mem_append_right _) (Or.imp (List.mem_append_right _) (List.mem_append_right _))

theorem planned_branch {ops : List OwnerOp} (hops : ops ∈ programs)
    (hmake : ∀ c, .makeQueue c ∉ ops) (hopen : .openAdmission ∉ ops)
    (hserved : ∀ c q, s.queues c = some q → q.stopped = false →
      s.workers c ≠ .none ∨ Serves c ops) : Planned s ops :=
  ⟨shaped_program (.branch ops hops), fun c hc => absurd hc (hmake c), fun ho => absurd ho hopen,
    hserved⟩

theorem planned_startFailure (s : Core D) : Planned s startFailure :=
  planned_branch (by simp [programs]) (by decide) (by decide) fun _ _ _ _ =>
    .inr (.inr (.inl (by decide)))

theorem planned_stopped {ops : List OwnerOp} (hops : ops ∈ programs)
    (hmake : ∀ c, .makeQueue c ∉ ops) (hopen : .openAdmission ∉ ops)
    (hstopped : ∀ c q, s.queues c = some q → q.stopped = true) : Planned s ops :=
  planned_branch hops hmake hopen fun c q hq hlive =>
    absurd ((hstopped c q hq).symm.trans hlive) (by simp)

theorem returnFrom_plain (site : CleanupSite) (result : Bool) :
    (∀ c, .makeQueue c ∉ returnFrom site result) ∧ .openAdmission ∉ returnFrom site result := by
  cases site <;> exact ⟨by simp [returnFrom], by simp [returnFrom]⟩

theorem cleanup_plain (site : CleanupSite) :
    ((∀ c, .makeQueue c ∉ cleanupBody site) ∧ .openAdmission ∉ cleanupBody site) ∧
      (∀ c, .makeQueue c ∉ joinFailure site) ∧ .openAdmission ∉ joinFailure site := by
  cases site <;> decide

/-- Where a call ends, or fails to join, every open queue has its worker. -/
theorem Planned.manned {op : OwnerOp} {rest : List OwnerOp} (hP : Planned s (op :: rest))
    (hop : (∃ site c, op = .joinWorker site c) ∨ (∃ r, op = .returnStart r) ∨
      ∃ r, op = .returnCleanup r) {c : CameraId} {q : FrameQueue} (hq : s.queues c = some q)
    (hlive : q.stopped = false) : s.workers c ≠ .none := by
  refine (hP.served c q hq hlive).resolve_right fun hserves => ?_
  have hplaced := hP.shaped.check (by rcases hop with ⟨_, _, rfl⟩ | ⟨_, rfl⟩ | ⟨_, rfl⟩ <;> simp)
    (by rcases hop with ⟨_, _, rfl⟩ | ⟨_, rfl⟩ | ⟨_, rfl⟩ <;> simp) programs_placed
  have hnone : .cleanupGuard .start ∉ rest ∧ .spawnWorker c ∉ rest ∧
      .common (.closeQueue c) ∉ rest := by
    rcases hop with ⟨site, c', rfl⟩ | ⟨r, rfl⟩ | ⟨r, rfl⟩ <;>
      · simp only [placed, Bool.and_eq_true, List.all_eq_true, decide_eq_true_eq] at hplaced
        have hc := hplaced.2 c (by simp [cameras])
        exact ⟨hplaced.1.2, hc.1.1, hc.2⟩
  rcases hserves with hmem | hmem | hmem <;> rcases List.mem_cons.mp hmem with heq | hmem
  · rcases hop with ⟨_, _, rfl⟩ | ⟨_, rfl⟩ | ⟨_, rfl⟩ <;> cases heq
  · exact hnone.2.1 hmem
  · rcases hop with ⟨_, _, rfl⟩ | ⟨_, rfl⟩ | ⟨_, rfl⟩ <;> cases heq
  · exact hnone.1 hmem
  · rcases hop with ⟨_, _, rfl⟩ | ⟨_, rfl⟩ | ⟨_, rfl⟩ <;> cases heq
  · exact hnone.2.2 hmem

section Owner
variable [Fintype D] {op : OwnerOp} {rest : List OwnerOp} {a : OwnerAct} {l : OwnerLocal}
  {detached : List RetainedFrameJob}

omit [Fintype D] in
theorem Holding.planned_rest (h : Holding s s') (hB : Built s) (hP : Planned s (op :: rest))
    (hop : (∀ c, op ≠ .makeQueue c) ∧ (∀ c, op ≠ .spawnWorker c) ∧ op ≠ .cleanupGuard .start ∧
      ∀ c, op ≠ .common (.closeQueue c)) : Built s' ∧ Planned s' rest :=
  ⟨h.built hB, (h.planned hP).skip (fun c hc => absurd hc (hop.1 c)) hop.2.2.1 fun c _ hc =>
    absurd hc (not_or.mpr ⟨hop.2.1 c, hop.2.2.2 c⟩)⟩

omit [Fintype D] in
theorem Ledger.allStopped (hL : Ledger s) (h : s.cleanupComplete = true) (c : CameraId)
    (q : FrameQueue) (hq : s.queues c = some q) : q.stopped = true := by
  have hstop := hL.stopReturned (hL.complete h).1
  exact ((hL.stop hstop).2 (.emptied c) (by simp [closed, cameras]) q hq).1

omit [Fintype D] in
/-- The entry of a call has no code after it. -/
theorem Planned.startGuard_rest {config : CameraCoreConfig} {sink notifier : Bool}
    (hP : Planned s (.startGuard config sink notifier :: rest)) : rest = [] := by
  obtain ⟨program, hsuffix, hprogram⟩ := hP.shaped.suffix (by simp)
  cases hprogram with
  | entry config' sink' notifier' =>
    rcases List.suffix_cons_iff.mp hsuffix with heq | hnil
    · exact (List.cons.inj heq).2
    · exact absurd (List.suffix_nil.mp hnil) (by simp)
  | cleanup =>
    rcases List.suffix_cons_iff.mp hsuffix with heq | hnil
    · cases (List.cons.inj heq).1
    · exact absurd (List.suffix_nil.mp hnil) (by simp)
  | branch _ hmem =>
    have hentry := programs_entry program hmem _ (hsuffix.subset List.mem_cons_self)
    cases hentry

omit [Fintype D] in
theorem makeQueue_planned {c : CameraId} (hopened : s.admissionOpened = false) (hB : Built s)
    (hP : Planned s (.makeQueue c :: rest)) :
    Built (s.setQueue c (.new s.config.queueCapacity s.config.dropNewest)) ∧
      Planned (s.setQueue c (.new s.config.queueCapacity s.config.dropNewest)) rest := by
  have hplaced := hP.shaped.check (by simp) (by simp) programs_placed
  simp only [placed, List.all_eq_true, decide_eq_true_eq] at hplaced
  have hvalid := hP.valid c List.mem_cons_self
  have hself := s.setQueue_self c (.new s.config.queueCapacity s.config.dropNewest)
  have hother := fun c' (hc : c' ≠ c) =>
    s.setQueue_of_ne (.new s.config.queueCapacity s.config.dropNewest) hc
  refine ⟨⟨fun _ _ => hvalid, fun ho => absurd (hopened.symm.trans ho) (by simp), hB.manned⟩,
    hP.shaped.tail, fun _ _ => hvalid, fun ho c' hc' => ?_, fun c' q hq hlive => ?_⟩
  · by_cases hc : c' = c
    · subst hc
      exact .inl (by simp [hself])
    · rcases hP.made (List.mem_cons_of_mem _ ho) c' hc' with hne | hmem
      · exact .inl (by rwa [hother c' hc])
      · exact .inr ((List.mem_cons.mp hmem).resolve_left (by simpa using hc))
  · by_cases hc : c' = c
    · exact .inr (.inl (hplaced c' (by simp [cameras])))
    · rcases hP.served c' q ((hother c' hc).symm.trans hq) hlive with hw | hmem | hmem | hmem
      · exact .inl hw
      · exact .inr (.inl (by simpa using hmem))
      · exact .inr (.inr (.inl (by simpa using hmem)))
      · exact .inr (.inr (.inr (by simpa using hmem)))

omit [Fintype D] in
theorem openAdmission_planned (hB : Built s) (hP : Planned s (.openAdmission :: rest)) :
    Built { s with accepting := true, admissionOpened := true } ∧
      Planned { s with accepting := true, admissionOpened := true } rest := by
  have hplaced := hP.shaped.check (by simp) (by simp) programs_placed
  simp only [placed, List.all_eq_true, decide_eq_true_eq] at hplaced
  have hmade : ∀ c, s.config.cameraEnabled c = true → s.queues c ≠ none := fun c hc =>
    (hP.made List.mem_cons_self c hc).resolve_right fun hmem =>
      hplaced c (by simp [cameras]) (by simpa using hmem)
  refine ⟨⟨hB.valid, fun _ => hmade, hB.manned⟩, hP.shaped.tail,
    fun c hc => hP.valid c (List.mem_cons_of_mem _ hc), fun _ c hc => .inl (hmade c hc), ?_⟩
  intro c q hq hlive
  simpa [Serves] using hP.served c q hq hlive

omit [Fintype D] in
theorem spawnWorker_planned {c : CameraId} (henabled : s.config.cameraEnabled c = true)
    (hB : Built s) (hP : Planned s (.spawnWorker c :: rest)) :
    Built ((s.emit (.spawnWorker c true)).setWorker c .running) ∧
      Planned ((s.emit (.spawnWorker c true)).setWorker c .running) rest := by
  have hself := (s.emit (.spawnWorker c true)).setWorker_self c .running
  have hother := fun c' (hc : c' ≠ c) =>
    (s.emit (.spawnWorker c true)).setWorker_of_ne .running hc
  refine ⟨⟨hB.valid, hB.made, fun c' hc' => ?_⟩, hP.shaped.tail,
    fun c' hc' => hP.valid c' (List.mem_cons_of_mem _ hc'), fun ho c' hc' => ?_,
    fun c' q hq hlive => ?_⟩
  · by_cases hc : c' = c
    · exact hc ▸ henabled
    · rw [hother c' hc] at hc'
      exact hB.manned c' hc'
  · exact (hP.made (List.mem_cons_of_mem _ ho) c' hc').imp_right fun hmem => by simpa using hmem
  · by_cases hc : c' = c
    · exact .inl (by rw [hc, hself]; simp)
    · rw [hother c' hc]
      exact (hP.served c' q hq hlive).imp_right fun hserves => by simpa [Serves, hc] using hserves

theorem owner_planned (hL : Ledger s) (hS : rules.Safe (Holds s) (op :: rest)) (hQ : QueuesOk s)
    (hB : Built s) (hP : Planned s (op :: rest)) (h : op.exec s detached rest a = some (s', l)) :
    Built s' ∧ Planned s' l.ops := by
  have hsame : Holding s s := .of_eq rfl rfl rfl rfl
  cases exec_step h with
  | common op =>
    have hholding := holding_common false s op
    have hP' := hholding.planned hP
    refine ⟨hholding.built hB, Planned.prepend (hP'.skip (by simp) (by simp) ?_) _⟩
    rintro c q (hc | hc) hq hlive
    · cases hc
    · cases hc
      exact absurd ((done_closeQueue (s := s) c q hq).symm.trans hlive) (by simp)
  | rejected config sink notifier =>
    refine ⟨hB, planned_branch (by simp [programs]) (by simp) (by simp) fun c q hq hlive => ?_⟩
    obtain rfl := hP.startGuard_rest
    exact (hP.served c q hq hlive).imp_right fun hserves => by simp [Serves] at hserves
  | claim config sink notifier hclaim =>
    obtain ⟨hopened, -, -, hqueues, hworkers, -⟩ := hL.unclaimed hclaim
    refine ⟨⟨fun c hc => absurd (hqueues c) hc, fun ho => ?_, fun c hc => absurd (hworkers c) hc⟩,
      planned_branch (by simp [programs]) (by simp) (by simp) fun c q hq => ?_⟩
    · exact absurd (hopened.symm.trans ho) (by simp)
    · exact absurd ((hqueues c).symm.trans hq) (by simp)
  | valid hvalid =>
    refine ⟨hB, shaped_program (.branch _ (by simp [programs])), fun _ _ => hvalid,
      fun _ c _ => .inr (by simp [startBody, cameras]), fun c q hq => ?_⟩
    have hnone : s.queues c = none := hS.1 (.noQueue c) (by simp [cameras])
    exact absurd (hnone.symm.trans hq) (by simp)
  | makeQueue c henabled =>
    obtain ⟨hopened, -⟩ : Holds s .virgin := hS.1 _ (by simp)
    exact makeQueue_planned hopened hB hP
  | noQueue c hdisabled =>
    refine ⟨hB, hP.skip (fun c' heq hc' => ?_) (by simp) (by simp)⟩
    cases heq
    exact absurd (hdisabled.symm.trans hc') (by simp)
  | openAdmission => exact openAdmission_planned hB hP
  | spawnWorker c henabled => exact spawnWorker_planned henabled hB hP
  | noWorker c hdisabled =>
    refine ⟨hB, hP.skip (by simp) (by simp) fun c' q heq hq _ => ?_⟩
    obtain rfl : c = c' := by
      rcases heq with heq | heq <;> cases heq
      rfl
    exact absurd (hdisabled.symm.trans (hQ c q hq).enabled) (by simp)
  | invalid | throwQueue | fpsRefused | rotationRefused | throwSpawn | notStarted =>
    exact ⟨Holding.built (s := s) (.of_eq rfl rfl rfl rfl) hB, planned_startFailure _⟩
  | unclaimed site hclaim =>
    obtain ⟨hmake, hopen⟩ := returnFrom_plain site true
    refine ⟨hB, planned_stopped (mem_programs site true).2.1 hmake hopen fun c q hq => ?_⟩
    exact absurd (((hL.unclaimed hclaim).2.2.2.1 c).symm.trans hq) (by simp)
  | cleaned site hclaim hcomplete =>
    obtain ⟨hmake, hopen⟩ := returnFrom_plain site s.cleanupQuiesced
    exact ⟨hB, planned_stopped (mem_programs site _).2.1 hmake hopen (hL.allStopped hcomplete)⟩
  | cleanup site =>
    obtain ⟨⟨hmake, hopen⟩, -⟩ := cleanup_plain site
    refine ⟨hB, planned_branch (mem_programs site true).1 hmake hopen fun c _ _ _ => ?_⟩
    exact .inr (.inr (.inr (by simp [cleanupBody, closeAdmissionAndRequestStop, cameras])))
  | throwJoin site c =>
    obtain ⟨-, hmake, hopen⟩ := cleanup_plain site
    refine ⟨Holding.built (s := s) (.of_eq rfl rfl rfl rfl) hB,
      planned_branch (mem_programs site true).2.2 hmake hopen fun c' q hq hlive => ?_⟩
    exact .inl (hP.manned (.inl ⟨site, c, rfl⟩) hq hlive)
  | returnStart result =>
    refine ⟨Holding.built (s := s) (.of_eq rfl rfl rfl rfl) hB,
      planned_branch (by simp [programs]) (by simp) (by simp) fun c q hq hlive => ?_⟩
    exact .inl (hP.manned (.inr (.inl ⟨result, rfl⟩)) hq hlive)
  | returnCleanup result =>
    refine ⟨Holding.built (s := s) (.of_eq rfl rfl rfl rfl) hB,
      planned_branch (by simp [programs]) (by simp) (by simp) fun c q hq hlive => ?_⟩
    exact .inl (hP.manned (.inr (.inr ⟨result, rfl⟩)) hq hlive)
  | detachQueue c q hq =>
    exact (holding_setQueue hq fun _ => rfl).planned_rest hB hP (by simp)
  | clearBatch => exact ⟨Holding.built (s := s) (.of_eq rfl rfl rfl rfl) hB,
      Holding.planned (s := s) (.of_eq rfl rfl rfl rfl) hP⟩
  | joinWorker site c hfinished =>
    exact (holding_setWorker (s := s.emit (.joinWorker c true)) (by simp [Core.emit, hfinished])
      (by simp)).planned_rest (Holding.built (s := s) (.of_eq rfl rfl rfl rfl) hB)
      (Holding.planned (s := s) (.of_eq rfl rfl rfl rfl) hP) (by simp)
  | _ => exact Holding.planned_rest (s := s) (.of_eq rfl rfl rfl rfl) hB hP (by simp)

end Owner

/-! ### All threads -/

def CallbackPc.camera : CallbackPc → Option CameraId
  | .retain _ c .. => some c
  | .push _ c _ => some c
  | _ => none

def ThreadPlanned (s : Core D) : ∀ i : Thread D, Local i → Prop
  | .owner, (l : OwnerLocal) => Planned s l.ops
  | .dispatcher d, (l : Code CallbackPc) => (l.pc = .idle → s.inCallback d = false) ∧
    ∀ c, l.pc.camera = some c → s.config.cameraEnabled c = true
  | .worker c, (l : Code WorkerPc) => (l.pc = .finished → s.workers c ≠ .running) ∧
    (l.pc = .finish false ∨ l.pc = .finished → (CommonOp.closeQueue c).Done s)

theorem Holding.done {c : CameraId} (h : Holding s s') (hd : (CommonOp.closeQueue c).Done s) :
    (CommonOp.closeQueue c).Done s' := by
  intro q' hq'
  obtain ⟨q, hq, hstopped⟩ := h.queues c q' hq'
  exact hstopped (hd q hq)

theorem FrameQueue.pop_stopped {q : FrameQueue} (h : q.pop = .stopped) : q.stopped = true := by
  unfold FrameQueue.pop at h
  split at h
  · assumption
  · split at h <;> cases h

theorem callback_planned [DecidableEq D] {d : D} {l l' : Code CallbackPc}
    (h : CallbackStep d s l s' l') (hl : ThreadPlanned s (.dispatcher d) l) :
    ThreadPlanned s' (.dispatcher d) l' := by
  obtain ⟨hidle, hcamera⟩ := hl
  cases h with
  | common spurious op ops pc =>
    have hin : (op.exec spurious s).1.inCallback = s.inCallback := by cases op <;> rfl
    exact ⟨fun hpc => by rw [hin]; exact hidle hpc, fun c hc => by
      rw [(holding_common spurious s op).config]; exact hcamera c hc⟩
  | info scan c frame status info nowNs hindex hcheck =>
    obtain ⟨-, item, -, hitem⟩ := check_eq_some hcheck
    refine ⟨nofun, fun c' hc' => ?_⟩
    obtain rfl := Option.some.inj hc'
    exact enabledCamera_enabled (FrameSetItem.content_eq_some.mp hitem).1
  | retain scan c frame info => exact ⟨nofun, fun c' hc' => hcamera c' hc'⟩
  | leave failed => cases failed <;> exact ⟨fun _ => Function.update_self .., nofun⟩
  | _ => exact ⟨nofun, nofun⟩

theorem worker_planned {cameraInfo : Bool} {c : CameraId} {l l' : Code WorkerPc}
    (hrunning : s.workers c = .running) (hok : WorkerOk s c l)
    (h : WorkerStep cameraInfo c s l s' l') (hl : ThreadPlanned s (.worker c) l) :
    ThreadPlanned s' (.worker c) l' := by
  have hholding := worker_holding hrunning h
  obtain ⟨hfinished, hclosed⟩ := hl
  cases h with
  | common spurious op ops pc =>
    exact ⟨fun hpc => absurd hrunning (hfinished hpc), fun hpc => hholding.done (hclosed hpc)⟩
  | stopped q hq hp =>
    refine ⟨fun hpc => by simp [Code.of] at hpc, fun _ q' hq' => ?_⟩
    obtain rfl := Option.some.inj (hq.symm.trans hq')
    exact q.pop_stopped hp
  | finish failed =>
    refine ⟨fun _ => ?_, fun _ => hholding.done ?_⟩
    · cases failed <;> simp [Core.setWorker]
    · cases failed with
      | false => exact hclosed (.inl rfl)
      | true => exact (hok.safe (.done (.closeQueue c)) (by
          simp [Code.of, handled, failureOps, closeAdmissionAndRequestStop, cameras])).2
  | _ => constructor <;> exact fun hpc => by simp [Code.of, workerFailure] at hpc

variable [Fintype D] [DecidableEq D] {cameraInfo : Bool}

theorem step_rely {s : State D} (hs : (threads D cameraInfo).Reachable s) {i j : Thread D}
    {a : Act i} {l' : Local i} {s' : Core D}
    (hst : (threads D cameraInfo).step i a s.shared (s.locals i) = some (s', l')) (hj : j ≠ i) :
    Rely j s.shared s' := by
  obtain ⟨hL, hok⟩ := reachable_core hs
  cases i with
  | owner =>
    rcases ownerStep_cases hst with ⟨rfl, -⟩ | ⟨op, rest, hops, he⟩
    · exact rely_refl j _
    · have hsafe := (hok .owner : OwnerOk s.shared (s.locals .owner)).safe
      rw [hops] at hsafe
      exact owner_rely hsafe he hj
  | dispatcher d => exact (callback_ok hL (hok (.dispatcher d)) (frameSetTrampoline_step hst)).2.2.rely hj
  | worker c =>
    obtain ⟨hrunning, hstep⟩ := workerLoop_step hst
    exact (worker_ok hL (hok (.worker c)) hrunning hstep).2.2.rely hj

theorem reachable_planned {s : State D} (h : (threads D cameraInfo).Reachable s) :
    Built s.shared ∧ ∀ i, ThreadPlanned s.shared i (s.locals i) := by
  refine Threads.Reachable.outline (T := threads D cameraInfo) (I := Built)
    (J := fun i s l => ThreadPlanned s i l)
    ⟨⟨fun _ => absurd rfl, by simp [threads, Core.init], fun _ => absurd rfl⟩, ?_⟩
    ?_ ?_ h
  · rintro (_ | d | c)
    · exact planned_branch (by simp [threads, programs]) (by simp [threads]) (by simp [threads])
        (by simp [threads, Core.init])
    · exact ⟨fun _ => rfl, by simp [threads, Code.of, CallbackPc.camera]⟩
    · exact ⟨by simp [threads, Code.of], by simp [threads, Code.of]⟩
  · intro s i a s' l' hs hI hJ hst
    obtain ⟨hL, hok⟩ := reachable_core hs
    cases i with
    | owner =>
      rcases ownerStep_cases hst with ⟨rfl, hops, -, hcall⟩ | ⟨op, rest, hops, he⟩
      · refine ⟨hI, ?_⟩
        have hserved := (hJ : Planned s.shared (s.locals .owner : OwnerLocal).ops).served
        rw [hops] at hserved
        rcases hcall with ⟨config, sink, notifier, hl⟩ | hl <;>
          simp only [ThreadPlanned, hl]
        · exact ⟨shaped_program (.entry config sink notifier), by simp, by simp, fun c q hq hlive =>
            .inl ((hserved c q hq hlive).resolve_right (by simp [Serves]))⟩
        · exact ⟨shaped_program .cleanup, by simp, by simp, fun c q hq hlive =>
            .inl ((hserved c q hq hlive).resolve_right (by simp [Serves]))⟩
      · have hsafe := (hok .owner : OwnerOk s.shared (s.locals .owner)).safe
        have hP : Planned s.shared (s.locals .owner : OwnerLocal).ops := hJ
        rw [hops] at hsafe hP
        exact owner_planned hL hsafe (reachable_routed hs).1 hI hP he
    | dispatcher d =>
      have hstep := frameSetTrampoline_step hst
      exact ⟨(callback_holding hstep).built hI, callback_planned hstep hJ⟩
    | worker c =>
      obtain ⟨hrunning, hstep⟩ := workerLoop_step hst
      exact ⟨(worker_holding hrunning hstep).built hI, worker_planned hrunning (hok (.worker c)) hstep hJ⟩
  · intro s i a s' l' hs hI hJ hst j hj hother
    obtain ⟨hL, hok⟩ := reachable_core hs
    have hrely := step_rely hs hst hj
    cases j with
    | owner =>
      have hholding : Holding s.shared s' := by
        cases i with
        | owner => exact absurd rfl hj
        | dispatcher d => exact callback_holding (frameSetTrampoline_step hst)
        | worker c => exact worker_holding (workerLoop_step hst).1 (workerLoop_step hst).2
      exact hholding.planned hother
    | dispatcher d =>
      refine ⟨fun hpc => (hrely.inCallback d rfl).trans (hother.1 hpc), fun c hc => ?_⟩
      -- the configuration is fixed before a callback is admitted
      have hin : ¬ Outside (s.locals (.dispatcher d) : Code CallbackPc) := by
        rintro (hl | ⟨set, hl⟩ | hl) <;> rw [hl] at hc <;> cases hc
      have hopened := (hok (.dispatcher d) : CallbackOk s.shared d _).inside.resolve_left hin
      rw [((step_onward hst).claimed (hL.claimed hopened)).2]
      exact hother.2 c hc
    | worker c =>
      have hunborn := (hok (.worker c) : WorkerOk s.shared c _).unborn
      refine ⟨fun hpc => ?_, fun hpc => ?_⟩
      · rcases hrely.workers c rfl with he | ⟨hnone, -⟩ | ⟨-, he⟩
        · exact he ▸ hother.1 hpc
        · rw [hunborn hnone] at hpc
          cases hpc
        · simp [he]
      · have hborn : s.shared.workers c ≠ .none := by
          intro hnone
          rw [hunborn hnone] at hpc
          rcases hpc with hpc | hpc <;> cases hpc
        exact (hrely.keeps (hL.workers c hborn) (.done (.closeQueue c)) ⟨rfl, hother.2 hpc⟩).2

end RoboBaton.Camera
