import RoboBaton.Camera.Failures
import RoboBaton.Camera.Requests

/-! The notifier of the camera core. Whoever records the first failure calls it, so that it is
called once, and before a complete `Cleanup` returns. -/

namespace RoboBaton.Camera
open Trace Discipline Transition
variable {D : Type} {s s' : Core D} {cameraInfo : Bool}

/-! ### When a failure can be recorded -/

inductive Stage
  | underWay
  | complete
  deriving DecidableEq

def Stage.Known (s : Core D) : Stage → Prop
  | .underWay => s.startClaimed = true ∧ s.cleanupComplete = false
  | .complete => s.cleanupComplete = true

@[simp] def stageRules : Rules OwnerOp Stage where
  ends := []
  contract
    | .common .exchangeFailed => { needs := [.underWay] }
    -- these may fail
    | .validateConfig | .makeQueue _ | .setFps | .setOutputRotation | .spawnWorker _
    | .startFrameSetReturn | .joinWorker .. | .storeUnquiesced => { needs := [.underWay] }
    | .finishCleanup => { gives := [.complete], loses := [.underWay] }
    | .clearNotifier => { needs := [.complete] }
    | _ => {}

section Programs
variable {known : Stage → Prop}

theorem stages_startBody (h : known .underWay) : stageRules.Safe known startBody := by
  simp [startBody, cameras, List.finRange, h]

theorem stages_startFailure (h : known .underWay) : stageRules.Safe known startFailure := by
  simp [startFailure, recordFailure, h]

theorem stages_returnFrom (site : CleanupSite) (result : Bool) :
    stageRules.Safe known (returnFrom site result) := by
  cases site <;> simp [returnFrom]

theorem stages_joinFailure (site : CleanupSite) (h : known .underWay) :
    stageRules.Safe known (joinFailure site) := by
  cases site <;> simp [joinFailure, returnFrom, recordFailure, h]

theorem stages_cleanupBody (site : CleanupSite) (h : known .underWay) :
    stageRules.Safe known (cleanupBody site) := by
  cases site <;>
    simp [cleanupBody, closeAdmissionAndRequestStop, cameras, List.finRange, returnFrom, h]

end Programs

structure SameStages (s s' : Core D) : Prop where
  startClaimed : s'.startClaimed = s.startClaimed
  cleanupComplete : s'.cleanupComplete = s.cleanupComplete
  notifier : s'.notifier = s.notifier

theorem SameStages.known (h : SameStages s s') {f : Stage} (hf : f.Known s) : f.Known s' := by
  cases f with
  | underWay => exact ⟨h.startClaimed.trans hf.1, h.cleanupComplete.trans hf.2⟩
  | complete => exact h.cleanupComplete.trans hf

theorem sameStages_common (spurious : Bool) (s : Core D) (op : CommonOp) :
    SameStages s (op.exec spurious s).1 := by
  cases op <;> exact ⟨rfl, rfl, rfl⟩

theorem others_sameStages [Fintype D] [DecidableEq D] {i : Thread D} (hi : i ≠ .owner) {a : Act i}
    {l l' : Local i} (h : (threads D cameraInfo).step i a s l = some (s', l')) : SameStages s s' := by
  cases i with
  | owner => exact absurd rfl hi
  | dispatcher d =>
    cases frameSetTrampoline_step h with
    | common spurious op => exact sameStages_common spurious s op
    | leave failed => cases failed <;> exact ⟨rfl, rfl, rfl⟩
    | _ => exact ⟨rfl, rfl, rfl⟩
  | worker c =>
    cases (workerLoop_step h).2 with
    | common spurious op => exact sameStages_common spurious s op
    | finish failed => cases failed <;> exact ⟨rfl, rfl, rfl⟩
    | _ => exact ⟨rfl, rfl, rfl⟩

theorem inserted_quiet (spurious : Bool) (s : Core D) (op : CommonOp) :
    ∀ o ∈ (op.exec spurious s).2, o ≠ .exchangeFailed := by
  intro o ho
  cases op with
  | access c x =>
    obtain ⟨y, -, rfl⟩ := List.mem_map.mp ho
    simp
  | exchangeStop =>
    simp only [CommonOp.exec] at ho
    split at ho
    · cases ho
    · obtain rfl := List.mem_singleton.mp ho
      simp
  | exchangeFailed =>
    simp only [CommonOp.exec] at ho
    split at ho
    · obtain rfl := List.mem_singleton.mp ho
      simp
    · cases ho
  | _ => cases ho

theorem exec_stages [Fintype D] {op : OwnerOp} {rest : List OwnerOp} {a : OwnerAct}
    {detached : List RetainedFrameJob} {l : OwnerLocal} (hL : Ledger s)
    (hS : stageRules.Safe (Stage.Known s) (op :: rest))
    (h : op.exec s detached rest a = some (s', l)) :
    stageRules.Safe (Stage.Known s') l.ops := by
  have hneeds := hS.1
  have hrest : SameStages s s' → (stageRules.contract op).loses = [] →
      (stageRules.contract op).gives = [] → stageRules.Safe (Stage.Known s') rest :=
    fun hsame hloses hgives => hS.tail (fun f hf _ => hsame.known hf)
      fun f hf => by
        rw [hgives] at hf
        cases hf
  cases exec_step h with
  | common o =>
    have hsame := sameStages_common false s o
    have hsafe : stageRules.Safe (Stage.Known (o.exec false s).1) rest :=
      hS.tail (fun f hf _ => hsame.known hf) (by cases o <;> simp)
    refine hsafe.prepend fun op hop => ?_
    obtain ⟨o', ho', rfl⟩ := List.mem_map.mp hop
    have hquiet := inserted_quiet false s o o' ho'
    cases o' <;> simp at hquiet ⊢
  | claim config sink notifier hclaim =>
    have hcomplete := (hL.unclaimed hclaim).2.2.2.2.2.2.2
    exact ⟨fun f hf => by
      obtain rfl : f = .underWay := by simpa using hf
      exact ⟨rfl, hcomplete⟩, by simp⟩
  | valid => exact stages_startBody (hneeds .underWay (by simp))
  | invalid | throwQueue | fpsRefused | rotationRefused | throwSpawn | notStarted =>
    exact stages_startFailure (hneeds .underWay (by simp))
  | throwJoin site c => exact stages_joinFailure site (hneeds .underWay (by simp))
  | unclaimed site | cleaned site => exact stages_returnFrom site _
  | cleanup site hclaim hcomplete => exact stages_cleanupBody site ⟨hclaim, hcomplete⟩
  | rejected | returnStart | returnCleanup => simp
  | finishCleanup =>
    refine hS.tail (fun f hf hl => ?_) (fun f hf => ?_)
    · cases f with
      | underWay => simp at hl
      | complete => rfl
    · obtain rfl : f = .complete := by simpa using hf
      rfl
  | clearNotifier => exact hS.tail (fun f hf _ => by cases f <;> exact hf) (by simp)
  | clearBatch job more =>
    exact ⟨by simp, hrest ⟨rfl, rfl, rfl⟩ rfl rfl |>.mono fun f hf => .inl ⟨hf, by simp⟩⟩
  | _ => exact hrest ⟨rfl, rfl, rfl⟩ rfl rfl

/-! ### The calls of the notifier -/

def due : ∀ i : Thread D, Local i → ℕ
  | .owner, (l : OwnerLocal) => l.ops.count (.common .callNotifier)
  | .dispatcher _, (l : Code CallbackPc) => l.pending.count .callNotifier
  | .worker _, (l : Code WorkerPc) => l.pending.count .callNotifier

/-- The first failure on record is one call made or to be made. -/
def Booked (s s' : Core D) (before after : ℕ) : Prop :=
  s'.failed.toNat + s.notifications + before = s.failed.toNat + s'.notifications + after

theorem Booked.of_eq {n : ℕ} (hfailed : s'.failed = s.failed)
    (hnotifications : s'.notifications = s.notifications) : Booked s s' n n := by
  rw [Booked, hfailed, hnotifications]

theorem common_apart (spurious : Bool) (s : Core D) {op : CommonOp} (hcall : op ≠ .callNotifier)
    (hfailed : op ≠ .exchangeFailed) :
    (op.exec spurious s).1.failed = s.failed ∧
      (op.exec spurious s).1.notifications = s.notifications ∧
      (op.exec spurious s).2.count .callNotifier = 0 := by
  cases op with
  | access c a =>
    refine ⟨rfl, rfl, List.count_eq_zero.mpr fun hmem => ?_⟩
    obtain ⟨x, -, hx⟩ := List.mem_map.mp hmem
    cases hx
  | exchangeStop =>
    refine ⟨rfl, rfl, ?_⟩
    simp only [CommonOp.exec]
    split <;> rfl
  | exchangeFailed => exact absurd rfl hfailed
  | callNotifier => exact absurd rfl hcall
  | _ => exact ⟨rfl, rfl, rfl⟩

theorem booked_common (spurious : Bool) (s : Core D) (op : CommonOp) (ops : List CommonOp)
    (hnotifier : op = .exchangeFailed → s.notifier = true) :
    Booked s (op.exec spurious s).1 ((op :: ops).count .callNotifier)
      (((op.exec spurious s).2 ++ ops).count .callNotifier) := by
  by_cases hcall : op = .callNotifier
  · subst hcall
    rw [List.count_cons_self]
    show s.failed.toNat + s.notifications + _ = s.failed.toNat + (s.notifications + 1) + _
    rw [CommonOp.exec, List.nil_append]
    omega
  · by_cases hfirst : op = .exchangeFailed
    · subst hfirst
      have hset := hnotifier rfl
      show (true : Bool).toNat + s.notifications + _ = s.failed.toNat + s.notifications + _
      cases hfailed : s.failed
      · simp [CommonOp.exec, hfailed, hset]
        omega
      · simp [CommonOp.exec, hfailed]
    · obtain ⟨hfailed, hnotifications, hcount⟩ := common_apart spurious s hcall hfirst
      rw [List.count_cons_of_ne hcall, List.count_append, hcount, Nat.zero_add]
      exact .of_eq hfailed hnotifications

theorem record_count (s : Core D) (c : CameraId) (as : List Metrics.Access) :
    (record s c as).count .callNotifier = 0 := List.count_eq_zero.mpr (record_quiet s c as)

theorem recordJob_count (s : Core D) (job : RetainedFrameJob) (as : List Metrics.Access) :
    (recordJob s job as).count .callNotifier = 0 := List.count_eq_zero.mpr (recordJob_quiet s job as)

theorem callback_booked [DecidableEq D] {d : D} {l l' : Code CallbackPc}
    (hnotifier : .exchangeFailed ∈ l.pending → s.notifier = true) (h : CallbackStep d s l s' l') :
    Booked s s' (l.pending.count .callNotifier) (l'.pending.count .callNotifier) := by
  cases h with
  | common spurious op ops pc =>
    exact booked_common spurious s op ops fun hop => hnotifier (hop ▸ List.mem_cons_self)
  | info scan c frame status info nowNs =>
    rw [record_count]
    exact .of_eq rfl rfl
  | dropped scan c job =>
    rw [record_count]
    exact .of_eq rfl rfl
  | leave failed => cases failed <;> exact .of_eq rfl rfl
  | _ => exact .of_eq rfl rfl

theorem worker_booked {c : CameraId} {l l' : Code WorkerPc}
    (hnotifier : .exchangeFailed ∈ l.pending → s.notifier = true)
    (h : WorkerStep cameraInfo c s l s' l') :
    Booked s s' (l.pending.count .callNotifier) (l'.pending.count .callNotifier) := by
  cases h with
  | common spurious op ops pc =>
    exact booked_common spurious s op ops fun hop => hnotifier (hop ▸ List.mem_cons_self)
  | published | throwImage | throwInfo =>
    rw [recordJob_count]
    exact .of_eq rfl rfl
  | publishedInfo job =>
    dsimp only
    split
    · rw [recordJob_count]
      exact .of_eq rfl rfl
    · exact .of_eq rfl rfl
  | finish failed => cases failed <;> exact .of_eq rfl rfl
  | _ => exact .of_eq rfl rfl

/-! ### The calls of the owner -/

theorem programs_notifier : ∀ p ∈ programs, .common .callNotifier ∉ p := by decide

theorem owner_booked [Fintype D] {op : OwnerOp} {rest : List OwnerOp} {a : OwnerAct}
    {detached : List RetainedFrameJob} {l : OwnerLocal}
    (hnotifier : op = .common .exchangeFailed → s.notifier = true)
    (hlate : .common .callNotifier ∉ rest) (h : op.exec s detached rest a = some (s', l)) :
    Booked s s' ((op :: rest).count (.common .callNotifier))
        (l.ops.count (.common .callNotifier)) ∧
      .common .callNotifier ∉ l.ops.tail := by
  have hrest : rest.count (.common .callNotifier) = 0 := List.count_eq_zero.mpr hlate
  have htail : ∀ ops : List OwnerOp, .common .callNotifier ∉ ops →
      .common .callNotifier ∉ ops.tail := fun ops hops hmem => hops (List.mem_of_mem_tail hmem)
  rcases exec_ops h with ⟨o, rfl, rfl, hops⟩ | ⟨hop, hops⟩
  · have hbooked := booked_common false s o [] fun ho => hnotifier (by rw [ho])
    rw [List.append_nil] at hbooked
    have hcons : (OwnerOp.common o :: rest).count (.common .callNotifier) =
        [o].count .callNotifier := by
      rw [List.count_cons, hrest, List.count_singleton]
      simp
    have hinserted : (((o.exec false s).2.map OwnerOp.common ++ rest).count
        (.common .callNotifier)) = (o.exec false s).2.count .callNotifier := by
      rw [List.count_append, hrest, Nat.add_zero,
        List.count_map_of_injective _ _ fun a b hab => OwnerOp.common.inj hab]
    rw [hops, hcons, hinserted]
    refine ⟨hbooked, ?_⟩
    -- the call is the only instruction that the record inserts
    have hone : .common .callNotifier ∉ ((o.exec false s).2.map OwnerOp.common).tail := by
      by_cases hfirst : o = .exchangeFailed
      · subst hfirst
        simp only [CommonOp.exec]
        split <;> simp
      · by_cases hcall : o = .callNotifier
        · subst hcall
          simp [CommonOp.exec]
        · have hcount := (common_apart false s hcall hfirst).2.2
          refine htail _ fun hmem => List.count_eq_zero.mp hcount ?_
          simpa using hmem
    intro hmem
    cases hins : (o.exec false s).2.map OwnerOp.common with
    | nil =>
      rw [hins] at hmem
      exact htail rest hlate hmem
    | cons o' ins =>
      rw [hins] at hmem hone
      exact (List.mem_append.mp hmem).elim hone hlate
  · obtain ⟨hnotifications, hfailed⟩ := exec_notifications hop h
    have hhead : op ≠ .common .callNotifier := hop _
    rw [List.count_cons_of_ne hhead, hrest]
    suffices hnone : .common .callNotifier ∉ l.ops by
      rw [List.count_eq_zero.mpr hnone]
      exact ⟨.of_eq hfailed hnotifications, htail _ hnone⟩
    rcases hops with hops | hops | hops
    · rwa [hops]
    · rw [hops]
      exact List.not_mem_cons_of_ne_of_not_mem hhead.symm hlate
    · exact programs_notifier _ hops

/-! ### Runs in which `Start` is given a notifier -/

variable [Fintype D] [DecidableEq D]

def announces : (Σ i : Thread D, Act i) → Bool
  | ⟨.owner, (.start _ _ notifier : OwnerAct)⟩ => notifier
  | _ => true

/-- What holds as long as every `Start` is given a notifier. -/
structure Told (s : State D) : Prop where
  safe : stageRules.Safe (Stage.Known s.shared) (s.locals .owner : OwnerLocal).ops
  entry : ∀ config sink notifier,
    .startGuard config sink notifier ∈ (s.locals .owner : OwnerLocal).ops → notifier = true
  armed : ¬ Closed s.shared → s.shared.notifier = true
  late : .common .callNotifier ∉ (s.locals .owner : OwnerLocal).ops.tail
  balanced : s.shared.failed.toNat = s.shared.notifications + ∑ i, due i (s.locals i)

theorem callback_open {s : State D} (h : (threads D cameraInfo).Reachable s) {d : D}
    (hpending : (s.locals (.dispatcher d) : Code CallbackPc).pending ≠ []) : ¬ Closed s.shared := by
  intro hclosed
  apply hpending
  rcases closed_outside h hclosed d with hl | ⟨set, hl⟩ | hl <;> rw [hl] <;> rfl

theorem worker_open {s : State D} (h : (threads D cameraInfo).Reachable s) {c : CameraId}
    (hrunning : s.shared.workers c = .running) : ¬ Closed s.shared := by
  intro hclosed
  rcases closed_joined h hclosed c with hw | hw <;> simp [hw] at hrunning

omit [DecidableEq D] in
theorem exec_armed {op : OwnerOp} {rest : List OwnerOp} {a : OwnerAct}
    {detached : List RetainedFrameJob} {l : OwnerLocal}
    (hS : stageRules.Safe (Stage.Known s) (op :: rest))
    (hentry : ∀ config sink notifier, .startGuard config sink notifier ∈ op :: rest →
      notifier = true)
    (harmed : ¬ Closed s → s.notifier = true) (h : op.exec s detached rest a = some (s', l)) :
    ¬ Closed s' → s'.notifier = true := by
  cases exec_step h with
  | common o =>
    obtain ⟨hclaimed, hcomplete, hnotifier⟩ := sameStages_common false s o
    rw [Closed, hclaimed, hcomplete, hnotifier]
    exact harmed
  | claim config sink notifier => exact fun _ => hentry config sink notifier List.mem_cons_self
  | finishCleanup => exact fun hopen => absurd (.inr rfl) hopen
  | clearNotifier =>
    have hcomplete : s.cleanupComplete = true := hS.1 .complete (by simp)
    exact fun hopen => absurd (.inr hcomplete) hopen
  | _ => exact harmed

omit [DecidableEq D] in
theorem owner_entry {op : OwnerOp} {rest : List OwnerOp} {a : OwnerAct}
    {detached : List RetainedFrameJob} {l : OwnerLocal} {config : CameraCoreConfig}
    {sink notifier : Bool} (h : op.exec s detached rest a = some (s', l))
    (hmem : .startGuard config sink notifier ∈ l.ops) :
    .startGuard config sink notifier ∈ op :: rest := by
  rcases exec_ops h with ⟨o, -, -, hl⟩ | ⟨-, hl | hl | hl⟩
  · rw [hl] at hmem
    rcases List.mem_append.mp hmem with hmem | hmem
    · simp at hmem
    · exact List.mem_cons_of_mem _ hmem
  · exact List.mem_cons_of_mem _ (hl ▸ hmem)
  · exact hl ▸ hmem
  · have hno := programs_entry _ hl _ hmem
    cases hno

theorem next_told {s t : State D} {e : Σ i : Thread D, Act i}
    (hs : (threads D cameraInfo).Reachable s) (hT : Told s) (hannounces : announces e = true)
    (h : (threads D cameraInfo).next e s = some t) : Told t := by
  obtain ⟨i, a⟩ := e
  obtain ⟨s', l', hst, rfl⟩ := Threads.next_eq_some h
  have hsum := sum_update due s.locals i l'
  have hbalanced := hT.balanced
  -- the books of the thread that moves are the books of all
  have hbooks : Booked s.shared s' (due i (s.locals i)) (due i l') →
      s'.failed.toNat = s'.notifications + ∑ j, due j (Function.update s.locals i l' j) := by
    unfold Booked
    omega
  by_cases hi : i = .owner
  · subst hi
    suffices hsuff : stageRules.Safe (Stage.Known s') (l' : OwnerLocal).ops ∧
        (∀ config sink notifier, .startGuard config sink notifier ∈ (l' : OwnerLocal).ops →
          notifier = true) ∧
        (¬ Closed s' → s'.notifier = true) ∧
        .common .callNotifier ∉ (l' : OwnerLocal).ops.tail ∧
        Booked s.shared s' (due .owner (s.locals .owner)) (due .owner l') by
      obtain ⟨hsafe, hentry, harmed, hlate, hbooked⟩ := hsuff
      have hlocal : Function.update s.locals .owner l' .owner = l' := Function.update_self ..
      exact ⟨hlocal.symm ▸ hsafe, hlocal.symm ▸ hentry, harmed, hlocal.symm ▸ hlate,
        hbooks hbooked⟩
    obtain ⟨hsafe, hentry, harmed, hlate, -⟩ := hT
    change ownerStep a s.shared (s.locals .owner) = some (s', l') at hst
    generalize hl : (s.locals .owner : OwnerLocal) = l at hst hsafe hentry hlate
    obtain ⟨_ | ⟨op, rest⟩, detached⟩ := l
    · cases (a : OwnerAct) with
      | start config sink notifier =>
        cases hst
        refine ⟨by simp, fun config' sink' notifier' hmem => ?_, harmed, by simp, .of_eq rfl rfl⟩
        cases List.mem_singleton.mp hmem
        exact hannounces
      | cleanup =>
        cases hst
        exact ⟨by simp, by simp, harmed, by simp, .of_eq rfl rfl⟩
      | step => cases hst
      | status code => cases hst
      | throws => cases hst
    · have hexec : op.exec s.shared detached rest a = some (s', (l' : OwnerLocal)) := hst
      have hnotifier : op = .common .exchangeFailed → s.shared.notifier = true := by
        rintro rfl
        have hunder : Stage.underWay.Known s.shared := hsafe.1 .underWay (by simp)
        apply harmed
        rintro (hclaim | hcomplete)
        · exact absurd (hclaim.symm.trans hunder.1) (by decide)
        · exact absurd (hcomplete.symm.trans hunder.2) (by decide)
      obtain ⟨hbooked, hlate'⟩ := owner_booked hnotifier hlate hexec
      exact ⟨exec_stages (reachable_core hs).1 hsafe hexec,
        fun config sink notifier hmem => hentry config sink notifier (owner_entry hexec hmem),
        exec_armed hsafe hentry harmed hexec, hlate', hbooked⟩
  · have hsame := others_sameStages hi hst
    have hlocal : Function.update s.locals i l' .owner = s.locals .owner :=
      Function.update_of_ne (Ne.symm hi) ..
    have hbooked : Booked s.shared s' (due i (s.locals i)) (due i l') := by
      cases i with
      | owner => exact absurd rfl hi
      | dispatcher d =>
        refine callback_booked (fun hmem => ?_) (frameSetTrampoline_step hst)
        exact hT.armed (callback_open hs (List.ne_nil_of_mem hmem))
      | worker c =>
        obtain ⟨hrunning, hstep⟩ := workerLoop_step hst
        exact worker_booked (fun _ => hT.armed (worker_open hs hrunning)) hstep
    have hsafe := hT.safe.mono fun _ hf => hsame.known hf
    obtain ⟨-, hentry, harmed, hlate, -⟩ := hT
    rw [← hlocal] at hsafe hentry hlate
    refine ⟨hsafe, hentry, ?_, hlate, hbooks hbooked⟩
    show ¬ Closed s' → s'.notifier = true
    rw [Closed, hsame.startClaimed, hsame.cleanupComplete, hsame.notifier]
    exact harmed

theorem run_told {es : List (Σ i : Thread D, Act i)} {s : State D}
    (hannounces : ∀ e ∈ es, announces e = true)
    (h : (threads D cameraInfo).toSystem.run es (threads D cameraInfo).toSystem.start = some s) :
    Told s := by
  refine System.run_stable (M := (threads D cameraInfo).toSystem) (P := Told)
    (fun e he s t hs hT hn => next_told hs hT (hannounces e he) hn) .start ?_ h
  refine ⟨by simp [Threads.toSystem, threads], ?_, fun hopen => absurd (.inl rfl) hopen, ?_, ?_⟩
  · intro config sink notifier hmem
    cases hmem
  · intro hmem
    cases hmem
  · show 0 = 0 + ∑ i : Thread D, due i ((threads D cameraInfo).locals i)
    rw [Finset.sum_eq_zero, Nat.zero_add]
    rintro (_ | d | c) - <;> rfl

theorem closed_due {s : State D} (h : (threads D cameraInfo).Reachable s)
    (hclosed : Closed s.shared) (hidle : (s.locals .owner : OwnerLocal).ops = []) (i : Thread D) :
    due i (s.locals i) = 0 := by
  cases i with
  | owner =>
    show (s.locals .owner : OwnerLocal).ops.count (.common .callNotifier) = 0
    rw [hidle, List.count_nil]
  | dispatcher d =>
    rcases closed_outside h hclosed d with hl | ⟨set, hl⟩ | hl <;> rw [hl] <;> rfl
  | worker c =>
    have hworker : WorkerOk s.shared c (s.locals (.worker c)) := (reachable_core h).2 (.worker c)
    rcases closed_joined h hclosed c with hnone | hjoined
    · rw [hworker.unborn hnone]
      rfl
    · rw [hworker.ended (.inr hjoined)]
      rfl

/-- The notifier is called at most once, and for a failure on record. A failure that has not
been announced is one that some thread is about to announce. When the core is not started or
cleaned up, and no call is under way, all failures together have been announced once. -/
theorem failure_announced {es : List (Σ i : Thread D, Act i)} {s : State D}
    (hannounces : ∀ e ∈ es, announces e = true)
    (hrun : (threads D cameraInfo).toSystem.run es (threads D cameraInfo).toSystem.start = some s) :
    s.shared.notifications ≤ 1 ∧
      (0 < s.shared.notifications → s.shared.failed = true ∧ s.shared.incidents ≠ []) ∧
      (s.shared.failed = true → s.shared.notifications = 1 ∨ ∃ i, Due i (s.locals i)) ∧
      (Closed s.shared → (s.locals .owner : OwnerLocal).ops = [] →
        s.shared.notifications = if s.shared.incidents = [] then 0 else 1) := by
  have hs : (threads D cameraInfo).Reachable s := System.reachable_of_run hrun
  have hbalanced := (run_told hannounces hrun).balanced
  have hfailed : s.shared.failed.toNat ≤ 1 := Bool.toNat_le _
  obtain ⟨hL, -⟩ := reachable_core hs
  refine ⟨by omega, fun hcalled => ?_, fun hrecord => ?_, fun hclosed hidle => ?_⟩
  · have hrecord := reachable_notice hs hcalled
    exact ⟨hrecord, hL.failed hrecord⟩
  · by_cases hdue : ∃ i, Due i (s.locals i)
    · exact .inr hdue
    · have hnone : ∑ i, due i (s.locals i) = 0 := Finset.sum_eq_zero fun i _ => by
        have hi : ¬ Due i (s.locals i) := fun hmem => hdue ⟨i, hmem⟩
        cases i <;> exact List.count_eq_zero.mpr hi
      rw [hnone, hrecord] at hbalanced
      exact .inl hbalanced.symm
  · rw [Finset.sum_eq_zero fun i _ => closed_due hs hclosed hidle i, Nat.add_zero] at hbalanced
    rw [← hbalanced]
    split
    · next hnone =>
      have hno : s.shared.failed = false := by
        by_contra hne
        exact hL.failed (Bool.eq_true_of_not_eq_false hne) hnone
      rw [hno]
      rfl
    · next hsome =>
      rw [closed_recorded hs hclosed hidle hsome]
      rfl

theorem failure_announced_callback : .callbackFailed ∈ failedEnd.shared.events ∧
    failedEnd.shared.notifications = 1 := by
  have hannounces : ∀ e ∈ failedRun, announces e = true := by decide
  have hrun : (threads Unit false).toSystem.run failedRun (threads Unit false).toSystem.start =
      some failedEnd := (Option.some_get _).symm
  have hincidents : failedEnd.shared.incidents ≠ [] := by decide
  have hcount := (failure_announced hannounces hrun).2.2.2 (.inr (by decide)) (by decide)
  exact ⟨by decide, hcount.trans (if_neg hincidents)⟩

end RoboBaton.Camera
