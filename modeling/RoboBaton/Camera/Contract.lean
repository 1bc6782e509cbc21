import RoboBaton.Camera.Runs

/-! The protocol towards libsc132 over whole runs: how often it is started, asked to stop and
stopped, in what order, and what `Start` and `Cleanup` have done when they return. -/

namespace RoboBaton.Camera
open Trace Discipline Transition
variable {D : Type} {s s' : Core D}

/-! ### The rest of a call -/

section Programs
variable [Fintype D] {op : OwnerOp} {rest : List OwnerOp} {a : OwnerAct} {l : OwnerLocal}
  {detached : List RetainedFrameJob}

def programs : List (List OwnerOp) :=
  [[], [.returnStart .rejected], [.validateConfig], startBody, startFailure] ++
    [CleanupSite.start, .cleanup].flatMap fun site =>
      [cleanupBody site, returnFrom site true, returnFrom site false, joinFailure site]

theorem mem_programs (site : CleanupSite) (result : Bool) : cleanupBody site ∈ programs ∧
    returnFrom site result ∈ programs ∧ joinFailure site ∈ programs := by
  cases site <;> cases result <;> simp [programs]

theorem exec_ops (h : op.exec s detached rest a = some (s', l)) :
    (∃ o, op = .common o ∧ s' = (o.exec false s).1 ∧
        l.ops = (o.exec false s).2.map .common ++ rest) ∨
      (∀ o, op ≠ .common o) ∧ (l.ops = rest ∨ l.ops = op :: rest ∨ l.ops ∈ programs) := by
  cases exec_step h with
  | common op => exact .inl ⟨op, rfl, rfl, rfl⟩
  | unclaimed site | cleaned site =>
    exact .inr ⟨nofun, .inr (.inr (mem_programs site _).2.1)⟩
  | cleanup site => exact .inr ⟨nofun, .inr (.inr (mem_programs site true).1)⟩
  | throwJoin site c => exact .inr ⟨nofun, .inr (.inr (mem_programs site true).2.2)⟩
  | clearBatch => exact .inr ⟨nofun, .inr (.inl rfl)⟩
  | rejected | claim | valid | invalid | throwQueue | fpsRefused | rotationRefused | throwSpawn
  | notStarted | returnStart | returnCleanup =>
    exact .inr ⟨nofun, .inr (.inr (by simp [programs]))⟩
  | _ => exact .inr ⟨nofun, .inl rfl⟩

theorem exec_events (h : op.exec s detached rest a = some (s', l)) : s.events <+: s'.events := by
  cases exec_step h with
  | common op => cases op <;> first | exact List.prefix_refl _ | exact List.prefix_append _ _
  | _ => first | exact List.prefix_refl _ | exact List.prefix_append _ _

end Programs

theorem threads_events [Fintype D] [DecidableEq D] {cameraInfo : Bool} {i : Thread D} {a : Act i}
    {l l' : Local i} (h : (threads D cameraInfo).step i a s l = some (s', l')) :
    s.events <+: s'.events := by
  have hcommon : ∀ spurious op, s.events <+: (CommonOp.exec spurious s op).1.events := by
    intro spurious op
    cases op <;> first | exact List.prefix_refl _ | exact List.prefix_append _ _
  cases i with
  | owner =>
    rcases ownerStep_cases h with ⟨rfl, -⟩ | ⟨op, rest, -, he⟩
    · exact List.prefix_refl _
    · exact exec_events he
  | dispatcher d =>
    cases frameSetTrampoline_step h with
    | common spurious op => exact hcommon spurious op
    | leave failed => cases failed <;> first | exact List.prefix_refl _ | exact List.prefix_append _ _
    | _ => exact List.prefix_refl _
  | worker c =>
    cases (workerLoop_step h).2 with
    | common spurious op => exact hcommon spurious op
    | finish failed => cases failed <;> first | exact List.prefix_refl _ | exact List.prefix_append _ _
    | _ => exact List.prefix_refl _

/-- The configuration is fixed by the first `Start`; failures and stops are for good. -/
structure Onward (s s' : Core D) : Prop where
  claimed : s.startClaimed = true → s'.startClaimed = true ∧ s'.config = s.config
  failed : s.failed = true → s'.failed = true
  stopRequested : s.stopRequested = true → s'.stopRequested = true
  incidents : s.incidents <+: s'.incidents

theorem Onward.of_eq (hclaimed : s'.startClaimed = s.startClaimed) (hconfig : s'.config = s.config)
    (hfailed : s'.failed = s.failed) (hstop : s'.stopRequested = s.stopRequested)
    (hincidents : s'.incidents = s.incidents) : Onward s s' :=
  ⟨fun h => ⟨hclaimed.trans h, hconfig⟩, hfailed.trans, hstop.trans,
    hincidents ▸ List.prefix_refl _⟩

theorem onward_incident (s : Core D) (i : Incident D) : Onward s (s.incident i) :=
  ⟨fun h => ⟨h, rfl⟩, id, id, List.prefix_append _ _⟩

theorem onward_common (spurious : Bool) (s : Core D) (op : CommonOp) :
    Onward s (op.exec spurious s).1 := by
  cases op <;> exact ⟨fun h => ⟨h, rfl⟩, by first | exact id | exact fun _ => rfl,
    by first | exact id | exact fun _ => rfl, List.prefix_refl _⟩

theorem Quiet.onward (h : Quiet s s') : Onward s s' := by
  obtain ⟨is, hincidents, -⟩ := h.incidents
  exact ⟨fun hs => ⟨h.startClaimed.trans hs, h.config⟩, h.failed.trans, h.stopRequested.trans,
    ⟨is, hincidents.symm⟩⟩

theorem callback_onward [DecidableEq D] {d : D} {l l' : Code CallbackPc}
    (h : CallbackStep d s l s' l') : Onward s s' := by
  cases h with
  | common spurious op => exact onward_common spurious s op
  | leave failed => cases failed <;> exact .of_eq rfl rfl rfl rfl rfl
  | throwHeader set => exact onward_incident s _
  | throwItem scan => exact onward_incident s _
  | throwRetain scan c frame info => exact onward_incident s _
  | throwPush scan c job q q' hq hp => exact onward_incident s _
  | _ => exact .of_eq rfl rfl rfl rfl rfl

theorem worker_onward {cameraInfo : Bool} {c : CameraId} {l l' : Code WorkerPc}
    (h : WorkerStep cameraInfo c s l s' l') : Onward s s' := by
  cases h with
  | common spurious op => exact onward_common spurious s op
  | finish failed => cases failed <;> exact .of_eq rfl rfl rfl rfl rfl
  | throwCall job => exact onward_incident s _
  | throwImage job => exact onward_incident s _
  | throwInfo job => exact onward_incident s _
  | _ => exact .of_eq rfl rfl rfl rfl rfl

theorem owner_onward {op : OwnerOp} {detached detached' : List RetainedFrameJob}
    (h : OwnerEffect s detached op s' detached') : Onward s s' := by
  cases h with
  | quiet _ _ hq => exact hq.onward
  | common op => exact onward_common false s op
  | claim config sink notifier hclaimed =>
    exact ⟨fun h => absurd (hclaimed.symm.trans h) (by decide), id, id, List.prefix_refl _⟩
  | _ => exact .of_eq rfl rfl rfl rfl rfl

theorem step_onward [Fintype D] [DecidableEq D] {cameraInfo : Bool} {i : Thread D} {a : Act i}
    {l l' : Local i} (hst : (threads D cameraInfo).step i a s l = some (s', l')) :
    Onward s s' := by
  cases i with
  | owner =>
    obtain ⟨rfl, -⟩ | ⟨op, rest, -, he⟩ := ownerStep_cases hst
    · exact .of_eq rfl rfl rfl rfl rfl
    · exact owner_onward (exec_effect he)
  | dispatcher d => exact callback_onward (frameSetTrampoline_step hst)
  | worker c => exact worker_onward (workerLoop_step hst).2

def code : ∀ i : Thread D, Local i → List CommonOp
  | .owner, (l : OwnerLocal) => l.ops.filterMap fun
    | .common op => some op
    | _ => none
  | .dispatcher _, (l : Code CallbackPc) => l.pending
  | .worker _, (l : Code WorkerPc) => l.pending

/-! ### Requests to stop -/

def requests (s : Core D) : Nat := s.events.count .requestStop

/-- The calls of `sc132_request_stop` that a thread has decided to make. -/
def pendingRequests : ∀ i : Thread D, Local i → Nat
  | .owner, (l : OwnerLocal) => l.ops.count (.common .requestStop)
  | .dispatcher _, (l : Code CallbackPc) => l.pending.count .requestStop
  | .worker _, (l : Code WorkerPc) => l.pending.count .requestStop

def Requested (s s' : Core D) (n n' : Nat) : Prop :=
  s'.stopRequested.toNat + requests s + n = s.stopRequested.toNat + requests s' + n'

theorem Requested.quiet {n n' : Nat} (hevents : requests s' = requests s)
    (hstop : s'.stopRequested = s.stopRequested) (hn : n' = n) : Requested s s' n n' := by
  rw [Requested, hevents, hstop, hn]

theorem requests_emit (s : Core D) {e : Event} (he : e ≠ .requestStop) :
    requests (s.emit e) = requests s := by
  rw [requests, Core.emit, List.count_append, List.count_singleton, if_neg (by simpa using he)]
  rfl

theorem common_requested (spurious : Bool) (s : Core D) (op : CommonOp) (ops : List CommonOp) :
    Requested s (op.exec spurious s).1 ((op :: ops).count .requestStop)
      (((op.exec spurious s).2 ++ ops).count .requestStop) := by
  cases op with
  | requestStop =>
    simp [Requested, CommonOp.exec, requests, Core.emit]
    omega
  | exchangeStop =>
    cases hs : s.stopRequested <;> simp [Requested, CommonOp.exec, requests, hs]
    omega
  | access c a =>
    have hnone : ((a.exec spurious (s.metrics c)).2.map (CommonOp.access c)).count .requestStop = 0 :=
      List.count_eq_zero.mpr (by simp)
    simp [Requested, CommonOp.exec, requests, hnone]
  | exchangeFailed =>
    have hnone : (if (!s.failed && s.notifier) = true then [CommonOp.callNotifier] else []).count
        .requestStop = 0 := by
      split <;> rfl
    simp only [Requested, CommonOp.exec, requests, List.count_append, hnone]
    simp
  | _ => simp [Requested, CommonOp.exec, requests]

theorem record_requests (s : Core D) (c : CameraId) (as : List Metrics.Access) :
    (record s c as).count .requestStop = 0 := by
  refine List.count_eq_zero.mpr fun hmem => ?_
  unfold record at hmem
  split at hmem
  · simp at hmem
  · cases hmem

theorem recordJob_requests (s : Core D) (job : RetainedFrameJob) (as : List Metrics.Access) :
    (recordJob s job as).count .requestStop = 0 := by
  unfold recordJob
  split
  · exact record_requests ..
  · rfl

theorem callback_requested [DecidableEq D] {d : D} {l l' : Code CallbackPc}
    (h : CallbackStep d s l s' l') :
    Requested s s' (l.pending.count .requestStop) (l'.pending.count .requestStop) := by
  cases h with
  | common spurious op ops pc => exact common_requested spurious s op ops
  | info scan c frame status info nowNs => exact .quiet rfl rfl (record_requests ..)
  | dropped scan c job => exact .quiet rfl rfl (record_requests ..)
  | leave failed =>
    cases failed with
    | false => exact .quiet rfl rfl rfl
    | true => exact .quiet (requests_emit s (by simp)) rfl rfl
  | _ => exact .quiet rfl rfl rfl

theorem worker_requested {cameraInfo : Bool} {c : CameraId} {l l' : Code WorkerPc}
    (h : WorkerStep cameraInfo c s l s' l') :
    Requested s s' (l.pending.count .requestStop) (l'.pending.count .requestStop) := by
  cases h with
  | common spurious op ops pc => exact common_requested spurious s op ops
  | published job latencyNs => exact .quiet rfl rfl (recordJob_requests ..)
  | throwImage job => exact .quiet rfl rfl (recordJob_requests ..)
  | throwInfo job => exact .quiet rfl rfl (recordJob_requests ..)
  | publishedInfo job =>
    refine .quiet rfl rfl ?_
    show (if _ then _ else _ : List CommonOp).count _ = 0
    split
    · exact recordJob_requests ..
    · rfl
  | finish failed =>
    cases failed with
    | false => exact .quiet rfl rfl rfl
    | true => exact .quiet (requests_emit s (by simp)) rfl rfl
  | _ => exact .quiet rfl rfl rfl

theorem common_metrics (spurious : Bool) (s : Core D) {op : CommonOp}
    (hop : ∀ c a, op ≠ .access c a) :
    (op.exec spurious s).1.metrics = s.metrics ∧ ∀ c a, .access c a ∉ (op.exec spurious s).2 := by
  cases op with
  | access c a => exact absurd rfl (hop c a)
  | exchangeStop =>
    refine ⟨rfl, fun c a => ?_⟩
    simp only [CommonOp.exec]
    split <;> simp
  | exchangeFailed =>
    refine ⟨rfl, fun c a => ?_⟩
    simp only [CommonOp.exec]
    split <;> simp
  | _ => exact ⟨rfl, fun c a => by simp [CommonOp.exec]⟩

/-- The rest of a call of the owner: a request that was decided comes first, the calls of
`sc132_stop` are those of `CleanupLocked`, and the metrics are left to the other threads. -/
structure OpsOk (ops : List OwnerOp) : Prop where
  metrics : ∀ c a, .common (.access c a) ∉ ops
  request : .common .requestStop ∉ ops.tail
  stop : ∀ post, .stop :: post <:+ ops → ∃ site, .stop :: post <:+ cleanupBody site

def OwnerOp.isAccess : OwnerOp → Bool
  | .common (.access ..) => true
  | _ => false

theorem programs_metrics : ∀ p ∈ programs, ∀ op ∈ p, op.isAccess = false := by decide

theorem programs_request : ∀ p ∈ programs, .common .requestStop ∉ p := by decide

theorem programs_stop :
    ∀ p ∈ programs, .stop ∈ p → p = cleanupBody .start ∨ p = cleanupBody .cleanup := by decide

theorem opsOk_program {ops : List OwnerOp} (h : ops ∈ programs) : OpsOk ops := by
  refine ⟨fun c a hmem => ?_,
    fun hmem => programs_request ops h (List.mem_of_mem_tail hmem), fun post hpost => ?_⟩
  · exact absurd (programs_metrics ops h _ hmem) (by simp [OwnerOp.isAccess])
  rcases programs_stop ops h (hpost.subset List.mem_cons_self) with rfl | rfl <;> exact ⟨_, hpost⟩

theorem suffix_of_append {α : Type} {x : α} {post ins rest : List α} (hx : x ∉ ins)
    (h : x :: post <:+ ins ++ rest) : x :: post <:+ rest := by
  induction ins with
  | nil => exact h
  | cons y ins ih =>
    rcases List.suffix_cons_iff.mp h with heq | h
    · exact absurd (List.mem_cons.mpr (.inl (List.cons.inj heq).1)) hx
    · exact ih (fun hmem => hx (List.mem_cons_of_mem _ hmem)) h

section Owner
variable {op : OwnerOp} {rest : List OwnerOp} {a : OwnerAct} {l : OwnerLocal}
  {detached : List RetainedFrameJob}

theorem OpsOk.tail (h : OpsOk (op :: rest)) : OpsOk rest :=
  ⟨fun c a hmem => h.metrics c a (List.mem_cons_of_mem _ hmem),
    fun hmem => h.request (List.mem_of_mem_tail hmem),
    fun post hpost => h.stop post (hpost.trans (List.suffix_cons _ _))⟩

theorem OpsOk.inserted {o : CommonOp} (h : OpsOk (.common o :: rest)) :
    OpsOk ((o.exec false s).2.map .common ++ rest) := by
  have hop : ∀ c a, o ≠ .access c a := by
    rintro c a rfl
    exact h.metrics c a List.mem_cons_self
  constructor
  · intro c a hmem
    rcases List.mem_append.mp hmem with hmem | hmem
    · exact (common_metrics false s hop).2 c a (by simpa using hmem)
    · exact h.metrics c a (List.mem_cons_of_mem _ hmem)
  · have hone : (o.exec false s).2.tail.count .requestStop = 0 := by
      cases o with
      | exchangeStop =>
        simp only [CommonOp.exec]
        split <;> rfl
      | exchangeFailed =>
        simp only [CommonOp.exec]
        split <;> rfl
      | access c m => exact absurd rfl (hop c m)
      | _ => rfl
    intro hmem
    rcases hins : (o.exec false s).2 with _ | ⟨i, ins⟩
    · rw [hins] at hmem
      exact h.request (List.mem_of_mem_tail hmem)
    · rw [hins] at hmem hone
      rcases List.mem_append.mp hmem with hmem | hmem
      · exact List.count_eq_zero.mp hone (by simpa using hmem)
      · exact h.request hmem
  · exact fun post hpost => h.tail.stop post (suffix_of_append (by simp) hpost)

variable [Fintype D]

theorem exec_requests (h : op.exec s detached rest a = some (s', l)) (hop : ∀ o, op ≠ .common o) :
    requests s' = requests s ∧ s'.stopRequested = s.stopRequested := by
  cases exec_step h with
  | common op => exact absurd rfl (hop op)
  | _ =>
    first
    | exact ⟨rfl, rfl⟩
    | exact ⟨requests_emit s (by simp), rfl⟩

theorem exec_requested (hops : OpsOk (op :: rest))
    (h : op.exec s detached rest a = some (s', l)) : OpsOk l.ops ∧
      Requested s s' ((op :: rest).count (.common .requestStop))
        (l.ops.count (.common .requestStop)) := by
  have hcount : ∀ ops : List CommonOp, (ops.map OwnerOp.common).count (.common .requestStop) =
      ops.count .requestStop := fun ops =>
    List.count_map_of_injective ops OwnerOp.common (fun _ _ h => OwnerOp.common.inj h) _
  have hrest : rest.count (.common .requestStop) = 0 := List.count_eq_zero.mpr hops.request
  rcases exec_ops h with ⟨o, rfl, rfl, hl⟩ | ⟨hop, hl⟩
  · have hcommon := common_requested false s o []
    refine ⟨hl ▸ hops.inserted, ?_⟩
    rw [hl, List.count_append, hcount, hrest, List.count_cons, hrest]
    simpa [List.count_cons] using hcommon
  · obtain ⟨hrequests, hstop⟩ := exec_requests h hop
    have hhead : (op :: rest).count (.common .requestStop) = 0 := by
      rw [List.count_cons_of_ne (by simpa using hop .requestStop), hrest]
    rcases hl with hl | hl | hl
    · exact ⟨hl ▸ hops.tail, .quiet hrequests hstop (by rw [hl, hrest, hhead])⟩
    · exact ⟨hl ▸ hops, .quiet hrequests hstop (by rw [hl])⟩
    · refine ⟨opsOk_program hl, .quiet hrequests hstop ?_⟩
      rw [hhead]
      exact List.count_eq_zero.mpr (programs_request _ hl)

end Owner

variable [Fintype D] [DecidableEq D] {cameraInfo : Bool}

abbrev State (D : Type) := Config (Thread D) (Core D) Local

section Reached
variable {s : State D}

theorem reachable_ops (h : (threads D cameraInfo).Reachable s) :
    OpsOk (s.locals .owner : OwnerLocal).ops := by
  refine Threads.Reachable.focus (T := threads D cameraInfo) (i := .owner)
    (J := fun _ (l : OwnerLocal) => OpsOk l.ops) ?_ ?_ ?_ h
  · exact opsOk_program (by simp [programs, threads])
  · intro s a s' l' _ hJ hst
    rcases ownerStep_cases hst with ⟨-, -, -, hcall⟩ | ⟨op, rest, hops, he⟩
    · rcases hcall with ⟨config, sink, notifier, hl⟩ | hl <;> rw [hl] <;>
        exact ⟨by simp, by simp, by simp [List.suffix_cons_iff]⟩
    · rw [hops] at hJ
      exact (exec_requested hJ he).1
  · exact fun _ _ _ _ _ _ _ hJ _ => hJ

theorem step_requested (h : (threads D cameraInfo).Reachable s) {i : Thread D} {a : Act i}
    {s' : Core D} {l' : Local i}
    (hst : (threads D cameraInfo).step i a s.shared (s.locals i) = some (s', l')) :
    Requested s.shared s' (pendingRequests i (s.locals i)) (pendingRequests i l') := by
  cases i with
  | owner =>
    rcases ownerStep_cases hst with ⟨rfl, hops, -, hl⟩ | ⟨op, rest, hops, he⟩
    · refine .quiet rfl rfl ?_
      show List.count _ _ = List.count _ _
      rw [hops]
      rcases hl with ⟨config, sink, notifier, hl⟩ | hl <;> rw [hl] <;> rfl
    · have hok := reachable_ops h
      rw [hops] at hok
      show Requested _ _ (List.count _ (s.locals .owner : OwnerLocal).ops) _
      rw [hops]
      exact (exec_requested hok he).2
  | dispatcher d => exact callback_requested (frameSetTrampoline_step hst)
  | worker c => exact worker_requested (workerLoop_step hst).2

theorem no_pending_init :
    ∑ i : Thread D, pendingRequests i ((threads D cameraInfo).locals i) = 0 :=
  Finset.sum_eq_zero fun i _ => by cases i <;> rfl

/-- Whoever sets `stop_requested` makes the one call. -/
theorem requests_conserved (h : (threads D cameraInfo).Reachable s) :
    s.shared.stopRequested.toNat = requests s.shared + ∑ i, pendingRequests i (s.locals i) := by
  refine Threads.Reachable.balance (T := threads D cameraInfo) (fun s => s.stopRequested.toNat)
    requests pendingRequests ?_ (fun _ _ _ _ _ hs hst => step_requested hs hst) h
  rw [no_pending_init]
  rfl

theorem requests_le (h : (threads D cameraInfo).Reachable s) : requests s.shared ≤ 1 := by
  have hbooks := requests_conserved h
  have hflag := Bool.toNat_le s.shared.stopRequested
  omega

theorem requests_of_quiet (h : (threads D cameraInfo).Reachable s)
    (hstop : s.shared.stopRequested = true) (hcalls : ∀ d, s.shared.inCallback d = false)
    (hjoined : ∀ c, Joined s.shared c)
    (howner : pendingRequests .owner (s.locals .owner) = 0) : requests s.shared = 1 := by
  have hbooks := requests_conserved h
  have hok := (reachable_core h).2
  have hnone : ∑ i, pendingRequests i (s.locals i) = 0 := by
    refine Finset.sum_eq_zero fun i _ => ?_
    cases i with
    | owner => exact howner
    | dispatcher d =>
      have hd : CallbackOk s.shared d (s.locals (.dispatcher d)) := hok (.dispatcher d)
      show List.count _ (s.locals (.dispatcher d) : Code CallbackPc).pending = 0
      rw [hd.returned (hcalls d)]
      rfl
    | worker c =>
      have hc : WorkerOk s.shared c (s.locals (.worker c)) := hok (.worker c)
      show List.count _ (s.locals (.worker c) : Code WorkerPc).pending = 0
      rcases hjoined c with hw | hw
      · rw [hc.unborn hw]
        rfl
      · rw [hc.ended (.inr hw)]
        rfl
  rw [hstop, hnone] at hbooks
  exact hbooks.symm

theorem stopReturned_step {i : Thread D} {a : Act i} {s' : Core D} {l' : Local i}
    (hst : (threads D cameraInfo).step i a s.shared (s.locals i) = some (s', l'))
    (hs : .stopReturned ∈ s'.events) : .stopReturned ∈ s.shared.events ∨
      (∃ rest, (s.locals .owner : OwnerLocal).ops = .stopReturn :: rest) ∧
        ∀ d, s.shared.inCallback d = false := by
  cases i with
  | owner =>
    rcases ownerStep_cases hst with ⟨rfl, -⟩ | ⟨op, rest, hops, he⟩
    · exact .inl hs
    · rcases exec_stopReturned he hs with hs | ⟨rfl, hcalls⟩
      · exact .inl hs
      · exact .inr ⟨⟨rest, hops⟩, hcalls⟩
  | dispatcher d =>
    refine .inl ?_
    have hstep := frameSetTrampoline_step hst
    generalize s.locals (.dispatcher d) = l at hstep
    cases hstep with
    | common spurious op => exact common_stopReturned spurious op hs
    | leave failed => cases failed <;> simpa [Core.emit] using hs
    | _ => exact hs
  | worker c =>
    refine .inl ?_
    have hstep := (workerLoop_step hst).2
    generalize s.locals (.worker c) = l at hstep
    cases hstep with
    | common spurious op => exact common_stopReturned spurious op hs
    | finish failed => cases failed <;> simpa [Core.emit, Core.setWorker] using hs
    | _ => exact hs

theorem requests_of_stopReturned (h : (threads D cameraInfo).Reachable s) :
    .stopReturned ∈ s.shared.events → requests s.shared = 1 := by
  refine System.Reachable.invariant (M := (threads D cameraInfo).toSystem)
    (P := fun s => .stopReturned ∈ s.shared.events → requests s.shared = 1) nofun ?_ h
  rintro s ⟨i, a⟩ t hs ih hn hmem
  have hle := requests_le (h := hs.next hn)
  obtain ⟨s', l', hst, rfl⟩ := Threads.next_eq_some hn
  have hmono : requests s.shared ≤ requests s' := (threads_events hst).sublist.count_le _
  have hone : requests s.shared = 1 := by
    rcases stopReturned_step hst hmem with hmem | ⟨⟨rest, hops⟩, hcalls⟩
    · exact ih hmem
    · obtain ⟨hL, hok⟩ := reachable_core hs
      have howner : OwnerOk s.shared (s.locals .owner) := hok .owner
      have hstop : .stop ∈ s.shared.events := by
        have hsafe := howner.safe
        rw [hops] at hsafe
        exact hsafe.1 .stopCalled (by simp)
      have hclosed := (hL.stop hstop).2
      refine requests_of_quiet hs (hclosed (.done .exchangeStop) (by simp [closed])) hcalls
        (fun c => hclosed (.joined c) (by simp [closed, cameras])) ?_
      have hfirst := reachable_ops hs
      show List.count _ (s.locals .owner : OwnerLocal).ops = 0
      rw [hops] at hfirst ⊢
      rw [List.count_cons_of_ne (by simp)]
      exact List.count_eq_zero.mpr hfirst.request
  exact le_antisymm hle (hone ▸ hmono)

/-! ### Admission -/

theorem step_admissionClosed {i : Thread D} {a : Act i} {s s' : Core D} {l l' : Local i}
    (hst : (threads D cameraInfo).step i a s l = some (s', l')) (hs : s.admissionClosed = true) :
    s'.admissionClosed = true := by
  have hcommon : ∀ spurious op, (CommonOp.exec spurious s op).1.admissionClosed = true := by
    intro spurious op
    cases op <;> first | exact hs | rfl
  cases i with
  | owner =>
    rcases ownerStep_cases hst with ⟨rfl, -⟩ | ⟨op, rest, -, he⟩
    · exact hs
    · obtain ⟨ops, detached⟩ := l'
      cases exec_effect he with
      | quiet _ _ hq => exact hq.admissionClosed.trans hs
      | common op => exact hcommon false op
      | _ => exact hs
  | dispatcher d =>
    cases frameSetTrampoline_step hst with
    | common spurious op => exact hcommon spurious op
    | leave failed => cases failed <;> exact hs
    | _ => exact hs
  | worker c =>
    cases (workerLoop_step hst).2 with
    | common spurious op => exact hcommon spurious op
    | finish failed => cases failed <;> exact hs
    | _ => exact hs

theorem later_accepting (h : (threads D cameraInfo).Reachable s)
    (hs : s.shared.admissionClosed = true) {u : State D}
    (hu : (threads D cameraInfo).toSystem.Later s u) : u.shared.accepting = false := by
  have hclosed : u.shared.admissionClosed = true := by
    refine System.Later.stable (M := (threads D cameraInfo).toSystem)
      (P := fun u => u.shared.admissionClosed = true) ?_ h hs hu
    rintro v ⟨i, a⟩ w _ hv hn
    obtain ⟨c, l, hst, rfl⟩ := Threads.next_eq_some hn
    exact step_admissionClosed hst hv
  by_contra haccepting
  have := ((reachable_core (hu.reachable h)).1.accepting (Bool.eq_true_of_not_eq_false haccepting)).2
  rw [hclosed] at this
  cases this

/-! ### The protocol -/

def Event.isStartFrameSet : Event → Bool
  | .startFrameSet .. => true
  | _ => false

/-- The protocol towards libsc132, as it shows in a state: in the history of the calls, in
what the next call of `sc132_stop` will find, and in what a further `Start` would do. -/
structure LibraryProtocol (cameraInfo : Bool) (s : State D) : Prop where
  startedOnce : (s.shared.events.filter Event.isStartFrameSet).length ≤ 1
  requestedOnce : requests s.shared ≤ 1
  requested : s.shared.stopRequested = true → requests s.shared = 1 ∨
    requests s.shared = 0 ∧ ∑ i, pendingRequests i (s.locals i) = 1
  handled : (.callbackFailed ∈ s.shared.events ∨ ∃ c, .workerFailed c ∈ s.shared.events) →
    s.shared.stopRequested = true ∧ s.shared.failed = true ∧ s.shared.accepting = false ∧
      ∀ c q, s.shared.queues c = some q → q.stopped = true
  cleanedUp : s.shared.cleanupComplete = true ∨ .returnCleanup true true ∈ s.shared.events →
    requests s.shared = 1
  stopCalls : ∀ post, (s.locals .owner : OwnerLocal).ops = .stop :: post →
    (∃ site, .stop :: post <:+ cleanupBody site) ∧ s.shared.stopRequested = true ∧
      (∀ c q, s.shared.queues c = some q → q.stopped = true ∧ q.queue = []) ∧
      ∀ c, s.shared.workers c = .none ∨ s.shared.workers c = .joined
  stopOrder : ∀ pre post, s.shared.events = pre ++ .stop :: post →
    ∀ c, .spawnWorker c true ∈ pre → .joinWorker c true ∈ pre
  stopCaller : ∀ i : Thread D, i ≠ .owner → ∀ a s' l',
    (threads D cameraInfo).step i a s.shared (s.locals i) = some (s', l') →
      s'.events.count .stop = s.shared.events.count .stop
  failedStart : .returnStart .failed ∈ s.shared.events → s.shared.terminal = true ∧
    ((∀ c, .joinWorker c false ∉ s.shared.events) →
      (∀ c, s.shared.workers c = .none ∨ s.shared.workers c = .joined) ∧
        ∀ c q, s.shared.queues c = some q → q.queue = [])
  closedForGood : s.shared.admissionClosed = true →
    ∀ u, (threads D cameraInfo).toSystem.Later s u → u.shared.accepting = false
  secondStart : (∃ r, .returnStart r ∈ s.shared.events) → ∀ config sink notifier rest detached,
    OwnerOp.exec s.shared detached rest (.startGuard config sink notifier) .step =
      some (s.shared, ⟨[.returnStart .rejected], detached⟩)

theorem stop_count {i : Thread D} (hi : i ≠ .owner) {a : Act i} {s s' : Core D} {l l' : Local i}
    (hst : (threads D cameraInfo).step i a s l = some (s', l')) :
    s'.events.count .stop = s.events.count .stop := by
  have hcommon : ∀ spurious op,
      (CommonOp.exec spurious s op).1.events.count .stop = s.events.count .stop := by
    intro spurious op
    cases op <;> simp [CommonOp.exec, Core.emit]
  cases i with
  | owner => exact (hi rfl).elim
  | dispatcher d =>
    cases frameSetTrampoline_step hst with
    | common spurious op => exact hcommon spurious op
    | leave failed => cases failed <;> simp [Core.emit]
    | _ => rfl
  | worker c =>
    cases (workerLoop_step hst).2 with
    | common spurious op => exact hcommon spurious op
    | finish failed => cases failed <;> simp [Core.emit, Core.setWorker]
    | _ => rfl

/-- In whatever order the callers, the callbacks and the workers run, and whatever libsc132
and the thread library answer. -/
theorem library_protocol (h : (threads D cameraInfo).Reachable s) :
    LibraryProtocol cameraInfo s := by
  obtain ⟨hL, hok⟩ := reachable_core h
  have howner : OwnerOk s.shared (s.locals .owner) := hok .owner
  constructor
  case startedOnce =>
    refine hL.ordered.filter_length_le_one fun pre e he hallowed x hx => ?_
    cases e <;> try cases he
    cases x <;> first | rfl | exact (hallowed _ _ hx).elim
  case requestedOnce => exact requests_le h
  case requested =>
    intro hstop
    -- the flag stands for one request, made or still to be made
    have hbooks := requests_conserved h
    rw [hstop, Bool.toNat_true] at hbooks
    omega
  case handled =>
    intro hmem
    -- the handler has done all of `failureOps` by then
    have hdone := (hL.handled hmem).2
    have hclosed : s.shared.admissionClosed = true :=
      hdone .storeAccepting (by simp [failureOps, closeAdmissionAndRequestStop])
    refine ⟨hdone .exchangeStop (by simp [failureOps, closeAdmissionAndRequestStop]),
      hdone .exchangeFailed (by simp [failureOps, recordFailure]),
      later_accepting h hclosed .refl, fun c => ?_⟩
    exact hdone (.closeQueue c) (by simp [failureOps, closeAdmissionAndRequestStop, cameras])
  case cleanedUp =>
    intro hmem
    exact requests_of_stopReturned h (hL.complete (hmem.elim id hL.returned)).1
  case stopCalls =>
    intro post hops
    have hsafe := howner.safe
    rw [hops] at hsafe
    have hclosed : ∀ f ∈ closed, Holds s.shared f := fun f hf =>
      hsafe.1 f (List.mem_cons_of_mem _ hf)
    refine ⟨(reachable_ops h).stop post (hops ▸ List.suffix_refl _),
      hclosed (.done .exchangeStop) (by simp [closed]), fun c => ?_, fun c => ?_⟩
    · exact hclosed (.emptied c) (by simp [closed, cameras])
    · exact hclosed (.joined c) (by simp [closed, cameras])
  case stopOrder =>
    intro pre post hsplit
    exact hL.ordered pre .stop post hsplit
  case stopCaller =>
    intro i hi a s' l' hst
    exact stop_count hi hst
  case failedStart =>
    intro hmem
    obtain ⟨hterminal, hfinished⟩ := hL.startFailed hmem
    refine ⟨hterminal, fun hjoins => ?_⟩
    have hcomplete := hfinished.resolve_right (not_exists.mpr hjoins)
    have hclosed := (hL.stop (hL.stopReturned (hL.complete hcomplete).1)).2
    refine ⟨fun c => hclosed (.joined c) (by simp [closed, cameras]), fun c q hq => ?_⟩
    exact (hclosed (.emptied c) (by simp [closed, cameras]) q hq).2
  case closedForGood =>
    intro hclosed u hu
    exact later_accepting h hclosed hu
  case secondStart =>
    rintro ⟨r, hr⟩ config sink notifier rest detached
    simp [OwnerOp.exec, hL.startReturned r hr]

end Reached

/-! ### Runs -/

section Runs
variable {D : Type}

def ownerDoes (as : List OwnerAct) : List (Σ i : Thread D, Act i) := as.map fun a => ⟨.owner, a⟩

def dispatcherDoes (d : D) (as : List CallbackAct) : List (Σ i : Thread D, Act i) :=
  as.map fun a => ⟨.dispatcher d, a⟩

def workerDoes (c : CameraId) (as : List WorkerAct) : List (Σ i : Thread D, Act i) :=
  as.map fun a => ⟨.worker c, a⟩

def startRun (config : CameraCoreConfig) : List (Σ i : Thread D, Act i) :=
  ownerDoes ([.start config true true, .step, .step] ++ List.replicate 5 .step ++
    [.status statusOk, .status statusOk] ++ List.replicate 5 .step ++
    [.status statusOk, .step, .step])

def failedRun : List (Σ i : Thread Unit, Act i) :=
  startRun .default ++ dispatcherDoes () (.callback none :: List.replicate 13 .step) ++
    workerDoes 0 [.step, .step] ++ ownerDoes (.cleanup :: List.replicate 26 .step)

def failedEnd : State Unit :=
  ((threads Unit false).toSystem.run failedRun (threads Unit false).toSystem.start).get rfl

theorem library_protocol_failed : .callbackFailed ∈ failedEnd.shared.events ∧
    .returnCleanup true true ∈ failedEnd.shared.events ∧ LibraryProtocol false failedEnd :=
  ⟨by decide, by decide, library_protocol (System.reachable_get _)⟩

/-- A callback without a frame set fails and is interrupted between the exchange of
`stop_requested` and the call that it then has to make. -/
def interruptedCallback : List (Σ i : Thread Unit, Act i) :=
  dispatcherDoes () [.callback none, .step, .step, .step, .step, .step]

def racingRun : List (Σ i : Thread Unit, Act i) :=
  startRun .default ++ interruptedCallback ++
    ownerDoes (.cleanup :: List.replicate 9 .step) ++ workerDoes 0 [.step, .step] ++
    ownerDoes (List.replicate 10 .step)

def racingEnd : State Unit :=
  ((threads Unit false).toSystem.run racingRun (threads Unit false).toSystem.start).get rfl

/-- `sc132_stop` can be called before `sc132_request_stop`. -/
theorem stop_before_request : ¬ ∀ s : State Unit, (threads Unit false).Reachable s →
    .stop ∈ s.shared.events → .requestStop ∈ s.shared.events := by
  intro hall
  have hstop : .stop ∈ racingEnd.shared.events := by decide
  have hrequest : .requestStop ∉ racingEnd.shared.events := by decide
  exact hrequest (hall racingEnd (System.reachable_get _) hstop)

end Runs
end RoboBaton.Camera
