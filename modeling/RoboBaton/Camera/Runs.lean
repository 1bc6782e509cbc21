import RoboBaton.Camera.Calls
import RoboBaton.Camera.References

/-! All threads of the core together: whatever the schedule and whatever libsc132 answers, the
ledger is kept and every thread finds what its code relies on. -/

namespace RoboBaton.Camera
open Trace Discipline Transition
variable {D : Type} {s s' : Core D}

/-! ### The local batches of `CleanupLocked` -/

@[simp] def batchRules : Rules OwnerOp Unit where
  ends := [()]
  contract
    | .detachQueue _ => { loses := [()] }
    | .clearBatches => { gives := [()] }
    | .startGuard .. => { needs := [()] }
    | .validateConfig => { needs := [()] }
    | .makeQueue _ => { needs := [()] }
    | .setFps => { needs := [()] }
    | .setOutputRotation => { needs := [()] }
    | .spawnWorker _ => { needs := [()] }
    | .startFrameSetReturn => { needs := [()] }
    | .cleanupGuard _ => { needs := [()] }
    | .joinWorker .. => { needs := [()] }
    | .finishCleanup => { needs := [()] }
    | .returnStart _ => { needs := [()] }
    | .returnCleanup _ => { needs := [()] }
    | _ => {}

def BatchesOk (l : OwnerLocal) : Prop := batchRules.Safe (fun _ => l.detached = []) l.ops

section Batches
variable {known : Unit → Prop} (h : known ())
include h

theorem batches_startBody : batchRules.Safe known startBody := by
  simp [startBody, cameras, List.finRange, h]

theorem batches_startFailure : batchRules.Safe known startFailure := by
  simp [startFailure, recordFailure, h]

theorem batches_returnFrom (site : CleanupSite) (result : Bool) :
    batchRules.Safe known (returnFrom site result) := by
  cases site <;> simp [returnFrom, h]

theorem batches_joinFailure (site : CleanupSite) : batchRules.Safe known (joinFailure site) := by
  cases site <;> simp [joinFailure, recordFailure, returnFrom, h]

end Batches

theorem batches_cleanupBody (known : Unit → Prop) (site : CleanupSite) :
    batchRules.Safe known (cleanupBody site) := by
  cases site <;>
    simp [cleanupBody, closeAdmissionAndRequestStop, cameras, List.finRange, returnFrom]

theorem Keeps.trans {t : Core D} (h : Keeps s t) (h' : Keeps t s') : Keeps s s' :=
  fun f hf => h' f (h f hf)

theorem keeps_emit (e : Event) (he : ∀ producer cameraMask, e ≠ .startFrameSet producer cameraMask) :
    Keeps s (s.emit e) := (Holds.emit e he).keeps

theorem keeps_setWorker (s : Core D) (c : CameraId) (status : WorkerStatus) :
    Keeps s (s.setWorker c status) := by
  rintro f ⟨hc, hf⟩
  refine ⟨hc, Holds.setWorker status f hf ?_⟩
  simp only [List.mem_cons, List.not_mem_nil, or_false]
  rintro (rfl | rfl) <;> cases hc

theorem Quiet.keeps (h : Quiet s s') : Keeps s s' := by
  obtain ⟨is, hincidents, -⟩ := h.incidents
  rintro f ⟨hc, hf⟩
  refine ⟨hc, ?_⟩
  cases f with
  | done op => cases op <;> simp_all [Holds, CommonOp.Done, h.queues, h.failed, h.acceptingClosed,
      h.stopRequested, h.admissionClosed]
  | blamed =>
    rw [Holds, hincidents]
    exact List.append_ne_nil_of_left_ne_nil hf _
  | claimed => exact h.startClaimed.trans hf
  | _ => cases hc

theorem keeps_claim (s : Core D) (config : CameraCoreConfig) (sink notifier : Bool) :
    Keeps s { s with startClaimed := true, config := config, sink := sink, notifier := notifier } := by
  rintro f ⟨hc, hf⟩
  refine ⟨hc, ?_⟩
  cases f with
  | done op => cases op <;> exact hf
  | claimed => rfl
  | blamed => exact hf
  | _ => cases hc

section Owner
variable {l : OwnerLocal} {op : OwnerOp} {rest : List OwnerOp} {a : OwnerAct}
  {detached : List RetainedFrameJob}

variable [Fintype D]

theorem exec_batches (hb : BatchesOk ⟨op :: rest, detached⟩)
    (h : op.exec s detached rest a = some (s', l)) : BatchesOk l := by
  have hd : () ∈ (batchRules.contract op).needs → detached = [] := hb.1 ()
  cases exec_step h with
  | common op =>
    refine Rules.Safe.prepend (hb.tail (fun _ hd _ => hd) (by simp)) fun o ho => ?_
    obtain ⟨o', -, rfl⟩ := List.mem_map.mp ho
    exact ⟨by simp, rfl⟩
  | rejected | claim | returnStart | returnCleanup => simpa [BatchesOk] using hd (by simp)
  | valid => exact batches_startBody (hd (by simp))
  | invalid | throwQueue | fpsRefused | rotationRefused | throwSpawn | notStarted =>
    exact batches_startFailure (hd (by simp))
  | unclaimed site | cleaned site => exact batches_returnFrom (hd (by simp)) site _
  | cleanup site => exact batches_cleanupBody _ site
  | throwJoin site c => exact batches_joinFailure (hd (by simp)) site
  -- the frames that are detached are cleared one by one
  | noQueueLeft | detachQueue => exact hb.tail (fun _ _ hlost => by simp at hlost) (by simp)
  | batchesCleared hempty => exact hb.tail (fun _ hd _ => hd) fun _ _ => hempty
  | clearBatch job more hjob => exact hb.mono fun _ hd => absurd (hjob.symm.trans hd) (by simp)
  | _ => exact hb.tail (fun _ hd _ => hd) (by simp)

/-! ### What the other threads see of the owner -/

theorem exec_stopReturned (h : op.exec s detached rest a = some (s', l)) :
    .stopReturned ∈ s'.events →
      .stopReturned ∈ s.events ∨ op = .stopReturn ∧ ∀ d, s.inCallback d = false := by
  cases exec_step h with
  | common op => exact fun hs => .inl (common_stopReturned false op hs)
  | stopReturn hidle => exact fun _ => .inr ⟨rfl, hidle⟩
  | _ =>
    exact fun hs => .inl (by simpa [Core.emit, Core.incident, Core.setQueue, Core.setWorker,
      Core.release] using hs)

theorem owner_rely (hS : rules.Safe (Holds s) (op :: rest))
    (h : op.exec s detached rest a = some (s', l)) {j : Thread D} (hj : j ≠ .owner) :
    Rely j s s' := by
  have hstopped := fun hs => (exec_stopReturned h hs).imp_right And.right
  have heffect := exec_effect h
  have hn := hS.1
  obtain ⟨ops', detached'⟩ := l
  cases heffect with
  | quiet _ _ hq =>
    obtain ⟨is, hincidents, his⟩ := hq.incidents
    refine ⟨fun _ => hq.keeps, fun ho => hq.admissionOpened.trans ho, fun hf => hq.failed.trans hf,
      fun d _ => by rw [hq.inCallback], fun c _ => .inl (by rw [hq.workers]), hstopped, ?_⟩
    rintro i hi rfl
    rw [hincidents] at hi
    exact (List.mem_append.mp hi).resolve_right fun hmem => hj (his i hmem)
  | common op =>
    refine ⟨fun _ => keeps_common false op, ?_, ?_, ?_, ?_, hstopped, ?_⟩
    · cases op <;> exact id
    · cases op <;> first | exact id | exact fun _ => rfl
    · cases op <;> exact fun _ _ => rfl
    · cases op <;> exact fun _ _ => .inl rfl
    · cases op <;> exact fun _ hi _ => hi
  | claim config sink notifier hclaim =>
    exact ⟨fun _ => keeps_claim s config sink notifier, id, id, fun _ _ => rfl, fun _ _ => .inl rfl,
      hstopped, fun _ hi _ => hi⟩
  -- no other thread has been admitted yet
  | makeQueue c hc =>
    obtain ⟨hopened, -⟩ : Holds s .virgin := hn _ (by simp)
    exact ⟨fun ho => absurd (hopened.symm.trans ho) (by simp), id, id, fun _ _ => rfl,
      fun _ _ => .inl rfl, hstopped, fun _ hi _ => hi⟩
  | openAdmission =>
    obtain ⟨hopened, -⟩ : Holds s .virgin := hn _ (by simp)
    exact ⟨fun ho => absurd (hopened.symm.trans ho) (by simp), fun _ => rfl, id, fun _ _ => rfl,
      fun _ _ => .inl rfl, hstopped, fun _ hi _ => hi⟩
  | spawn c =>
    have hnone : s.workers c = .none := hn (.noWorker c) (by simp)
    refine ⟨fun _ => ?_, id, id, fun _ _ => rfl, fun c' _ => ?_, hstopped, fun _ hi _ => hi⟩
    · exact (keeps_emit _ (by simp)).trans (keeps_setWorker _ c _)
    · by_cases hc : c' = c
      · subst hc
        exact .inr (.inl ⟨hnone, Core.setWorker_self _ c' .running⟩)
      · exact .inl (Core.setWorker_of_ne _ .running hc)
  | detach c q hq =>
    exact ⟨fun _ => (Holds.detachQueue hq).keeps, id, id, fun _ _ => rfl, fun _ _ => .inl rfl,
      hstopped, fun _ hi _ => hi⟩
  | release job _ hd =>
    exact ⟨fun _ => ((still_release s job).survive []).keeps, id, id, fun _ _ => rfl,
      fun _ _ => .inl rfl, hstopped, fun _ hi _ => hi⟩
  | join site c hw =>
    refine ⟨fun _ => ?_, id, id, fun _ _ => rfl, fun c' _ => ?_, hstopped, fun _ hi _ => hi⟩
    · exact (keeps_emit _ (by simp)).trans (keeps_setWorker _ c _)
    · by_cases hc : c' = c
      · subst hc
        exact .inr (.inr ⟨hw, Core.setWorker_self _ c' .joined⟩)
      · exact .inl (Core.setWorker_of_ne _ .joined hc)

end Owner

/-! ### All threads -/

structure OwnerOk (s : Core D) (l : OwnerLocal) : Prop where
  safe : rules.Safe (Holds s) l.ops
  batches : BatchesOk l

def ThreadOk (s : Core D) : ∀ i : Thread D, Local i → Prop
  | .owner, (l : OwnerLocal) => OwnerOk s l
  | .dispatcher d, (l : Code CallbackPc) => CallbackOk s d l
  | .worker c, (l : Code WorkerPc) => WorkerOk s c l

theorem rely_refl (j : Thread D) (s : Core D) : Rely j s s :=
  ⟨fun _ _ h => h, id, id, fun _ _ => rfl, fun _ _ => .inl rfl, .inl, fun _ hi _ => hi⟩

theorem ownerStep_ok [Fintype D] {a : OwnerAct} {l l' : OwnerLocal} (hL : Ledger s)
    (hl : OwnerOk s l) (h : ownerStep a s l = some (s', l')) :
    Ledger s' ∧ OwnerOk s' l' ∧ ∀ j : Thread D, j ≠ .owner → Rely j s s' := by
  obtain ⟨hsafe, hbatches⟩ := hl
  rcases ownerStep_cases h with ⟨rfl, hops, hdetached, hl'⟩ | ⟨op, rest, hops, he⟩
  · rw [hops] at hsafe
    have hrecorded : Holds s' .recorded := hsafe _ (by simp)
    have hempty : l'.detached = [] := by
      rw [BatchesOk, hops] at hbatches
      rw [hdetached]
      exact hbatches () (by simp)
    refine ⟨hL, ⟨?_, ?_⟩, fun j _ => rely_refl j s'⟩
    · rcases hl' with ⟨config, sink, notifier, hl'⟩ | hl' <;> rw [hl'] <;>
        exact ⟨by simpa using hrecorded, safe_done (.inl ⟨hrecorded, by simp⟩)⟩
    · rcases hl' with ⟨config, sink, notifier, hl'⟩ | hl' <;>
        simp [BatchesOk, hl', hempty]
  · obtain ⟨ops, detached⟩ := l
    cases hops
    obtain ⟨hL', hsafe'⟩ := sound op hL hsafe he
    exact ⟨hL', ⟨hsafe', exec_batches hbatches he⟩, fun j hj => owner_rely hsafe he hj⟩

theorem OwnerOk.congr {i : Thread D} {l : OwnerLocal} (h : OwnerOk s l) (hg : Guarantee i s s') :
    OwnerOk s' l := ⟨h.safe.mono fun f hf => hg.survive f hf (by simp), h.batches⟩

theorem ThreadOk.congr {i j : Thread D} {l : Local j} (h : ThreadOk s j l) (hL : Ledger s)
    (hg : Guarantee i s s') (hj : j ≠ i) : ThreadOk s' j l := by
  cases j with
  | owner => exact OwnerOk.congr h hg
  | dispatcher d => exact CallbackOk.congr h (hg.rely hj)
  | worker c => exact WorkerOk.congr h hL (hg.rely hj)

theorem ledger_init : Ledger (Core.init : Core D) := by
  constructor <;> simp [Core.init, NoStart, ordered_nil]

variable [Fintype D] [DecidableEq D] {cameraInfo : Bool}

/-- One step of any thread: for itself and for the others. -/
theorem step_ok {i : Thread D} {a : Act i} {l l' : Local i} (hL : Ledger s)
    (hl : ThreadOk s i l) (h : (threads D cameraInfo).step i a s l = some (s', l')) :
    Ledger s' ∧ ThreadOk s' i l' ∧
      ∀ j, j ≠ i → ∀ lj : Local j, ThreadOk s j lj → ThreadOk s' j lj := by
  cases i with
  | owner =>
    obtain ⟨hL', hl', hr⟩ := ownerStep_ok hL hl h
    refine ⟨hL', hl', fun j hj lj hok => ?_⟩
    cases j with
    | owner => exact (hj rfl).elim
    | dispatcher d => exact CallbackOk.congr hok (hr _ hj)
    | worker c => exact WorkerOk.congr hok hL (hr _ hj)
  | dispatcher d =>
    obtain ⟨hL', hl', hg⟩ := callback_ok hL hl (frameSetTrampoline_step h)
    exact ⟨hL', hl', fun j hj lj hok => ThreadOk.congr hok hL hg hj⟩
  | worker c =>
    obtain ⟨hrunning, hstep⟩ := workerLoop_step h
    obtain ⟨hL', hl', hg⟩ := worker_ok hL hl hrunning hstep
    exact ⟨hL', hl', fun j hj lj hok => ThreadOk.congr hok hL hg hj⟩

theorem reachable_core {s} (h : (threads D cameraInfo).Reachable s) :
    Ledger s.shared ∧ ∀ i, ThreadOk s.shared i (s.locals i) := by
  refine Threads.Reachable.outline (T := threads D cameraInfo) (I := Ledger)
    (J := fun i s l => ThreadOk s i l) ⟨ledger_init, ?_⟩ ?_ ?_ h
  · rintro (_ | d | c)
    · exact ⟨safe_done nofun, by simp [BatchesOk, threads]⟩
    · exact .idle nofun
    · exact ⟨fun _ => rfl, by simp [threads, Core.init], by simp [threads, Code.of], nofun⟩
  · intro s i a s' l' _ hI hJ hst
    obtain ⟨hL', hl', -⟩ := step_ok hI hJ hst
    exact ⟨hL', hl'⟩
  · intro s i a s' l' _ hI hJ hst j hj hother
    exact (step_ok hI hJ hst).2.2 j hj _ hother

end RoboBaton.Camera
