import RoboBaton.Camera.Handlers

/-! The calls of `Start` and `Cleanup`, instruction by instruction. -/

namespace RoboBaton.Camera
open Trace Discipline
variable {D : Type} {s s' : Core D}

/-! ### The programs -/

section Programs
variable {known : Fact → Prop}

theorem safe_done (hrecorded : known .recorded) : rules.Safe known [] := by
  simpa using hrecorded

variable (hclaimed : known .claimed)
include hclaimed

theorem safe_startFailure (hblamed : known .blamed) : rules.Safe known startFailure := by
  simp [startFailure, recordFailure, hclaimed, hblamed]

theorem safe_startBody (hrecorded : known .recorded) (hvirgin : known .virgin)
    (hunstarted : known .unstarted) (hlive : known .live) (hincomplete : known .incomplete)
    (hqueues : ∀ c, known (.noQueue c)) (hworkers : ∀ c, known (.noWorker c)) :
    rules.Safe known startBody := by
  simp [startBody, cameras, List.finRange, hclaimed, hrecorded, hvirgin, hunstarted, hlive, hincomplete,
    hqueues, hworkers]

theorem safe_returnFrom (site : CleanupSite) {result : Bool} (hverdict : known (.verdict result))
    (hrecorded : known .recorded) (hterminal : known .terminal) (hfinished : known .finished) :
    rules.Safe known (returnFrom site result) := by
  cases site <;> simp [returnFrom, hclaimed, hverdict, hrecorded, hterminal, hfinished]

theorem safe_joinFailure (site : CleanupSite) (hblamed : known .blamed)
    (hverdict : known (.verdict false)) (hterminal : known .terminal)
    (hincomplete : known .incomplete) (hfinished : known .finished) :
    rules.Safe known (joinFailure site) := by
  cases site <;>
    simp [joinFailure, recordFailure, returnFrom, hclaimed, hblamed, hverdict, hterminal,
      hincomplete, hfinished]

theorem safe_cleanupBody (site : CleanupSite) (hrecorded : known .recorded)
    (hincomplete : known .incomplete) :
    rules.Safe known (cleanupBody site) := by
  cases site <;>
    simp [cleanupBody, closeAdmissionAndRequestStop, cameras, List.finRange, returnFrom, closed,
      hclaimed, hrecorded, hincomplete]

end Programs

/-! ### One instruction -/

section Calls

/-- The instruction keeps the ledger, and the rest of the call finds what it relies on. -/
def Sound (D : Type) [Fintype D] (op : OwnerOp) : Prop :=
  ∀ {s s' : Core D} {detached rest a l}, Ledger s → rules.Safe (Holds s) (op :: rest) →
    op.exec s detached rest a = some (s', l) → Ledger s' ∧ rules.Safe (Holds s') l.ops

theorem sound_failStart (hL : Ledger s) (hclaimed : s.startClaimed = true) :
    Ledger (s.incident .startFailed) ∧
      rules.Safe (Holds (s.incident .startFailed)) startFailure :=
  ⟨hL.incident _, safe_startFailure hclaimed (List.append_ne_nil_of_right_ne_nil _ (by simp))⟩

theorem Holds.makeQueue (c : CameraId) (q : FrameQueue) :
    Survive [.noQueue c, .done (.closeQueue c), .emptied c] s (s.setQueue c q) := by
  intro f hf hlost
  have hne : ∀ c', c' ≠ c → (s.setQueue c q).queues c' = s.queues c' := fun c' hc =>
    s.setQueue_of_ne q hc
  cases f with
  | done op =>
    cases op with
    | closeQueue c' =>
      have hc : c' ≠ c := by
        rintro rfl
        simp at hlost
      intro x hx
      exact hf x ((hne c' hc).symm.trans hx)
    | _ => exact hf
  | emptied c' =>
    have hc : c' ≠ c := by
      rintro rfl
      simp at hlost
    intro x hx
    exact hf x ((hne c' hc).symm.trans hx)
  | noQueue c' =>
    have hc : c' ≠ c := by
      rintro rfl
      simp at hlost
    exact (hne c' hc).trans hf
  | _ => exact hf

theorem Holds.detachQueue {c : CameraId} {q : FrameQueue} (hq : s.queues c = some q) :
    Survive [] s (s.setQueue c q.stopAndDetach) := by
  intro f hf _
  have hcases : ∀ c' x, (s.setQueue c q.stopAndDetach).queues c' = some x →
      s.queues c' = some x ∨ x.stopped = true ∧ x.queue = [] := by
    intro c' x hx
    by_cases hc : c' = c
    · subst hc
      obtain rfl := Option.some.inj ((s.setQueue_self c' _).symm.trans hx)
      exact .inr ⟨rfl, rfl⟩
    · exact .inl ((s.setQueue_of_ne _ hc).symm.trans hx)
  cases f with
  | done op =>
    cases op with
    | closeQueue c' => exact fun x hx => (hcases c' x hx).elim (hf x) And.left
    | _ => exact hf
  | emptied c' => exact fun x hx => (hcases c' x hx).elim (hf x) id
  | noQueue c' =>
    have hc : c' ≠ c := by
      rintro rfl
      exact absurd (hf.symm.trans hq) (by simp)
    exact (s.setQueue_of_ne _ hc).trans hf
  | _ => exact hf

theorem sound_emit {op : OwnerOp} {rest : List OwnerOp} {e : Event} (hL : Ledger s)
    (hS : rules.Safe (Holds s) (op :: rest)) (hstart : ∀ producer cameraMask, e ≠ .startFrameSet producer cameraMask)
    (hsupported : Supported s e) (hallowed : Allowed s.events e)
    (hgive : ∀ f ∈ (rules.contract op).gives, Holds (s.emit e) f) :
    Ledger (s.emit e) ∧ rules.Safe (Holds (s.emit e)) rest :=
  ⟨hL.emit hsupported hallowed,
    hS.tail (fun f hf _ => Holds.emit e hstart f hf (by simp)) hgive⟩

theorem Still.sound {op : OwnerOp} {rest : List OwnerOp} (h : Still s s') (hL : Ledger s)
    (hS : rules.Safe (Holds s) (op :: rest)) (hgive : (rules.contract op).gives = []) :
    Ledger s' ∧ rules.Safe (Holds s') rest :=
  ⟨h.ledger hL, hS.tail (fun f hf hlost => h.survive _ f hf hlost) fun f hf => by
    rw [hgive] at hf
    cases hf⟩

variable [Fintype D]

theorem sound_common (op : CommonOp) : Sound D (.common op) := by
  intro s s' detached rest a l hL hS h
  cases a <;> cases h
  obtain ⟨hkeep, hgive⟩ := common_holds (s := s) false op
  refine ⟨common_ledger hL false op hS.1, Rules.Safe.prepend (hS.tail hkeep fun f hf => ?_) ?_⟩
  · rcases List.mem_append.mp hf with hf | hf
    · exact hgive f hf
    · split at hf
      · rename_i hop
        rw [hop, List.mem_singleton.mp hf]
        exact fun _ _ _ => rfl
      · cases hf
  · intro o ho
    obtain ⟨o', ho', rfl⟩ := List.mem_map.mp ho
    obtain ⟨hneeds, hloses⟩ := inserted_free false s op o' ho'
    exact ⟨fun f hf => hkeep f (hS.1 f (hneeds f hf).1) (hneeds f hf).2, hloses⟩

theorem sound_startGuard (config : CameraCoreConfig) (sink notifier : Bool) :
    Sound D (.startGuard config sink notifier) := by
  intro s s' detached rest a l hL hS h
  have hrecorded : Holds s .recorded := hS.1 _ (by simp)
  cases exec_step h with
  | rejected _ _ _ hguard =>
    refine ⟨hL, ?_⟩
    have hclaimed : s.startClaimed = true := by
      by_contra hc
      have hterminal := (hL.unclaimed (Bool.eq_false_of_not_eq_true hc)).2.2.2.2.2.2.1
      exact hc (hguard.resolve_right (by simp [hterminal]))
    simpa [hclaimed, Holds] using hrecorded
  | claim _ _ _ hclaim hopen =>
    obtain ⟨hopened, hadmission, hstop, hqueues, hworkers, hstart, hterminal, hcomplete⟩ :=
      hL.unclaimed hclaim
    refine ⟨{ hL with
      unclaimed := fun hc' => by cases hc'
      stop := fun hs => absurd ((hL.stop hs).1.symm.trans hclaim) (by decide)
      startReturned := fun _ _ => rfl
      handled := fun hs => absurd (hL.handled hs).1 (by simp [hopened]) }, fun f hf => ?_, ?_⟩
    rotate_left
    · exact safe_done (.inl ⟨hrecorded, by simp⟩)
    simp only [rules, List.mem_append, List.mem_cons, List.mem_map, List.not_mem_nil,
      or_false] at hf
    rcases hf with (rfl | rfl | rfl | rfl | rfl | rfl) | ⟨c, -, rfl⟩ | ⟨c, -, rfl⟩
    · rfl
    · exact hrecorded
    · exact ⟨hopened, hadmission⟩
    · exact hstart
    · exact hterminal
    · exact hcomplete
    · exact hqueues c
    · exact hworkers c

theorem sound_validateConfig : Sound D .validateConfig := by
  intro s s' detached rest a l hL hS h
  have hn := hS.1
  have hall : ∀ c, Holds s (.noQueue c) ∧ Holds s (.noWorker c) := fun c =>
    ⟨hn _ (by simp [cameras]), hn _ (by simp [cameras])⟩
  cases exec_step h with
  | valid =>
    exact ⟨hL, safe_startBody (hn .claimed (by simp)) (hn .recorded (by simp))
      (hn .virgin (by simp)) (hn .unstarted (by simp)) (hn .live (by simp)) (hn .incomplete (by simp))
      (fun c => (hall c).1) fun c => (hall c).2⟩
  | invalid => exact sound_failStart hL (hn .claimed (by simp))

theorem sound_makeQueue (c : CameraId) : Sound D (.makeQueue c) := by
  intro s s' detached rest a l hL hS h
  have hn := hS.1
  have hclaimed : s.startClaimed = true := hn .claimed (by simp)
  obtain ⟨hopened, hadmission⟩ : Holds s .virgin := hn _ (by simp)
  cases exec_step h with
  | makeQueue =>
    refine ⟨{ hL with
      unclaimed := fun hc => absurd (hclaimed.symm.trans hc) (by simp)
      stoppedQueue := fun c' q hq hstopped => ?_
      stop := fun hs => ?_
      handled := fun hs => absurd (hL.handled hs).1 (by simp [hopened]) }, hS.tail ?_ (by simp)⟩
    · by_cases hc : c' = c
      · subst hc
        obtain rfl := Option.some.inj ((s.setQueue_self c' _).symm.trans hq)
        cases hstopped
      · exact hL.stoppedQueue c' q ((s.setQueue_of_ne _ hc).symm.trans hq) hstopped
    · -- admission is closed when `sc132_stop` is called
      have hclosed : s.admissionClosed = true := (hL.stop hs).2 (.done .storeAccepting) (by
        simp [closed])
      exact absurd hclosed (by simp [hadmission])
    · exact fun f hf hlost => Holds.makeQueue c _ f hf hlost
  | noQueue => exact ⟨hL, hS.tail (fun f hf _ => hf) (by simp)⟩
  | throwQueue => exact sound_failStart hL hclaimed

theorem sound_openAdmission : Sound D .openAdmission := by
  intro s s' detached rest a l hL hS h
  have hn := hS.1
  have hclaimed : s.startClaimed = true := hn .claimed (by simp)
  obtain ⟨hopened, hadmission⟩ : Holds s .virgin := hn _ (by simp)
  cases a <;> cases h
  have hkeep : Survive [.virgin] s { s with accepting := true, admissionOpened := true } := by
    intro f hf hlost
    cases f with
    | done op => cases op <;> exact hf
    | virgin => simp at hlost
    | opened => rfl
    | _ => exact hf
  refine ⟨{ hL with
    unclaimed := fun hc => absurd (hclaimed.symm.trans hc) (by simp)
    accepting := fun _ => ⟨rfl, hadmission⟩
    workers := fun _ _ => rfl
    stop := fun hs => ⟨hclaimed, fun f hf => hkeep f ((hL.stop hs).2 f hf) ?_⟩
    handled := fun hs => absurd (hL.handled hs).1 (by simp [hopened]) }, hS.tail hkeep ?_⟩
  · rw [List.mem_singleton]
    rintro rfl
    simp [closed] at hf
  · simp [Holds]

theorem sound_setFps : Sound D .setFps := by
  intro s s' detached rest a l hL hS h
  have hclaimed : s.startClaimed = true := hS.1 .claimed (by simp)
  cases exec_step h with
  | setFps => exact sound_emit hL hS (by simp) trivial trivial (by simp)
  | fpsRefused code => exact sound_failStart (hL.emit trivial trivial) hclaimed

theorem sound_setOutputRotation : Sound D .setOutputRotation := by
  intro s s' detached rest a l hL hS h
  have hclaimed : s.startClaimed = true := hS.1 .claimed (by simp)
  cases exec_step h with
  | setOutputRotation => exact sound_emit hL hS (by simp) trivial trivial (by simp)
  | rotationRefused code => exact sound_failStart (hL.emit trivial trivial) hclaimed

theorem sound_spawnWorker (c : CameraId) : Sound D (.spawnWorker c) := by
  intro s s' detached rest a l hL hS h
  have hn := hS.1
  have hclaimed : s.startClaimed = true := hn .claimed (by simp)
  have hopened : s.admissionOpened = true := hn .opened (by simp)
  have hlive : s.terminal = false := hn .live (by simp)
  cases exec_step h with
  | spawnWorker =>
    have hstarted : Ledger (s.setWorker c .running) := by
      refine hL.setWorker hopened (by simp) (fun hs => ?_) (by simp)
      -- `sc132_stop` is called in a terminal core
      have hterminal : s.terminal = true := (hL.stop hs).2 .terminal (by simp [closed])
      exact absurd hterminal (by simp [hlive])
    refine ⟨hstarted.emit (e := .spawnWorker c true) (fun _ => ?_) trivial,
      hS.tail (fun f hf hlost => ?_) (by simp)⟩
    · rw [s.setWorker_self]
      simp
    · exact Holds.emit (.spawnWorker c true) (by simp) f
        (Holds.setWorker .running f hf hlost) (by simp)
  | noWorker => exact ⟨hL, hS.tail (fun f hf _ => hf) (by simp)⟩
  | throwSpawn => exact sound_failStart (hL.emit nofun trivial) hclaimed

theorem sound_startFrameSet : Sound D .startFrameSet := by
  intro s s' detached rest a l hL hS h
  have hn := hS.1
  have hclaimed : s.startClaimed = true := hn .claimed (by simp)
  have hunstarted : NoStart s.events := hn .unstarted (by simp)
  cases a <;> cases h
  have hs : Still (s.emit (.startFrameSet s.config.producer s.config.cameraMask))
      { s.emit (.startFrameSet s.config.producer s.config.cameraMask) with startAttempted := true } := by
    constructor <;> rfl
  refine ⟨hs.ledger (hL.emit hclaimed hunstarted), hS.tail (fun f hf hlost => ?_) (by simp)⟩
  refine hs.survive [] f ?_ (by simp)
  cases f with
  | unstarted => simp at hlost
  | done op => cases op <;> exact hf
  | stopCalled => exact List.mem_append_left _ hf
  | stopped => exact List.mem_append_left _ hf
  | finished => exact Finished.emit _ hf
  | _ => exact hf

theorem sound_startFrameSetReturn : Sound D .startFrameSetReturn := by
  intro s s' detached rest a l hL hS h
  cases exec_step h with
  | started => exact ⟨hL, hS.tail (fun f hf _ => hf) (by simp)⟩
  | notStarted => exact sound_failStart hL (hS.1 .claimed (by simp))

theorem sound_setRunning : Sound D .setRunning := by
  intro s s' detached rest a l hL hS h
  cases a <;> cases h
  exact Still.sound (by constructor <;> rfl) hL hS rfl

theorem sound_cleanupGuard (site : CleanupSite) : Sound D (.cleanupGuard site) := by
  intro s s' detached rest a l hL hS h
  have hrecorded : Holds s .recorded := by cases site <;> exact hS.1 _ (by simp)
  cases exec_step h with
  | unclaimed _ hc =>
    refine ⟨hL, ?_⟩
    cases site with
    | start => exact absurd ((hS.1 .claimed (by simp)).symm.trans hc) (by decide)
    | cleanup =>
      have hverdict : Holds s (.verdict true) := fun _ hclaimed =>
        absurd (hclaimed.symm.trans hc) (by decide)
      simp [returnFrom, hverdict, hrecorded]
  | cleaned _ hc hcomplete =>
    have hstop := hL.stopReturned (hL.complete hcomplete).1
    have hterminal : Holds s .terminal := (hL.stop hstop).2 .terminal (by simp [closed])
    exact ⟨hL, safe_returnFrom hc site (fun _ _ => hcomplete) hrecorded hterminal
      (.inl hcomplete)⟩
  | cleanup _ hc hcomplete => exact ⟨hL, safe_cleanupBody hc site hrecorded hcomplete⟩

theorem sound_setTerminal : Sound D .setTerminal := by
  intro s s' detached rest a l hL hS h
  have hclaimed : s.startClaimed = true := hS.1 .claimed (by simp)
  cases a <;> cases h
  have hkeep : Survive [.live] s { s with terminal := true } := by
    intro f hf hlost
    cases f with
    | done op => cases op <;> exact hf
    | live => simp at hlost
    | terminal => rfl
    | _ => exact hf
  refine ⟨{ hL with
    unclaimed := fun hc => absurd (hclaimed.symm.trans hc) (by simp)
    stop := fun hs => ⟨hclaimed, fun f hf => hkeep f ((hL.stop hs).2 f hf) ?_⟩
    startFailed := fun hs => ⟨rfl, (hL.startFailed hs).2⟩
    handled := fun hs => ⟨(hL.handled hs).1, fun op hop =>
      hkeep (.done op) ((hL.handled hs).2 op hop) (by simp)⟩ }, hS.tail hkeep ?_⟩
  · rw [List.mem_singleton]
    rintro rfl
    simp [closed] at hf
  · simp [Holds]

theorem sound_detachQueue (c : CameraId) : Sound D (.detachQueue c) := by
  intro s s' detached rest a l hL hS h
  have hrequested : s.stopRequested = true := hS.1 (.done .exchangeStop) (by simp)
  cases exec_step h with
  | noQueueLeft _ hq =>
    refine ⟨hL, hS.tail (fun f hf _ => hf) fun f hf => ?_⟩
    obtain rfl : f = .emptied c := by simpa using hf
    intro q hq'
    exact absurd (hq.symm.trans hq') (by simp)
  | detachQueue _ q hq =>
    have hkeep : Survive [] s (s.setQueue c q.stopAndDetach) := Holds.detachQueue hq
    refine ⟨{ hL with
      unclaimed := fun hc => absurd ((hL.unclaimed hc).2.2.1.symm.trans hrequested) (by simp)
      stoppedQueue := fun _ _ _ _ => hrequested
      stop := fun hs => ⟨(hL.stop hs).1, fun f hf => hkeep f ((hL.stop hs).2 f hf) (by simp)⟩
      handled := fun hs => ⟨(hL.handled hs).1, fun op hop =>
        hkeep (.done op) ((hL.handled hs).2 op hop) (by simp)⟩ },
      hS.tail (fun f hf _ => hkeep f hf (by simp)) fun f hf => ?_⟩
    obtain rfl : f = .emptied c := by simpa using hf
    intro x hx
    obtain rfl := Option.some.inj ((s.setQueue_self c _).symm.trans hx)
    exact ⟨rfl, rfl⟩

theorem sound_clearBatches : Sound D .clearBatches := by
  intro s s' detached rest a l hL hS h
  cases exec_step h with
  | batchesCleared => exact ⟨hL, hS.tail (fun f hf _ => hf) (by simp)⟩
  | clearBatch job more =>
    have hs := still_release s job
    exact ⟨hs.ledger hL, hS.mono fun f hf => hs.survive [] f hf (by simp)⟩

theorem sound_joinWorker (site : CleanupSite) (c : CameraId) : Sound D (.joinWorker site c) := by
  intro s s' detached rest a l hL hS h
  have hn := hS.1
  cases exec_step h with
  | joinWorker _ _ hw =>
    have hL' : Ledger ((s.emit (.joinWorker c true)).setWorker c .joined) :=
      (hL.emit (e := .joinWorker c true) trivial trivial).setWorker
        (hL.workers c (by simp [hw])) (by simp) (fun _ => rfl)
        fun _ => List.mem_append_right _ (List.mem_singleton_self _)
    have hjoined : Joined ((s.emit (.joinWorker c true)).setWorker c .joined) c :=
      .inr (Core.setWorker_self _ c .joined)
    refine ⟨hL', hS.tail (fun f hf hlost => ?_) fun f hf => ?_⟩
    · by_cases hf' : f = .joined c
      · exact hf' ▸ hjoined
      · refine Holds.setWorker .joined f (Holds.emit _ (by simp) f hf (by simp)) ?_
        simpa [hf'] using hlost
    · obtain rfl : f = .joined c := by simpa using hf
      exact hjoined
  | notJoinable _ _ hstill =>
    refine ⟨hL, hS.tail (fun f hf _ => hf) fun f hf => ?_⟩
    obtain rfl : f = .joined c := by simpa using hf
    exact hstill
  | throwJoin =>
    have hL' := (hL.emit (e := .joinWorker c false) trivial trivial).incident .joinFailed
    refine ⟨hL', safe_joinFailure ?_ site ?_ (by simp [Holds]) ?_ ?_ ?_⟩
    · exact hn .claimed (by simp)
    · exact List.append_ne_nil_of_right_ne_nil _ (by simp)
    · exact hn .terminal (by simp)
    · exact hn .incomplete (by simp)
    · exact .inr ⟨c, List.mem_append_right _ (List.mem_singleton_self _)⟩

theorem sound_storeUnquiesced : Sound D .storeUnquiesced := by
  intro s s' detached rest a l hL hS h
  have hincomplete : s.cleanupComplete = false := hS.1 .incomplete (by simp)
  cases a <;> cases h
  have hkeep : Survive [] s { s with cleanupQuiesced := false } := by
    intro f hf _
    cases f with
    | done op => cases op <;> exact hf
    | _ => exact hf
  refine ⟨{ hL with
    complete := fun hc => absurd (hincomplete.symm.trans hc) (by simp)
    stop := fun hs => ⟨(hL.stop hs).1, fun f hf => hkeep f ((hL.stop hs).2 f hf) (by simp)⟩
    handled := fun hs => ⟨(hL.handled hs).1, fun op hop =>
      hkeep (.done op) ((hL.handled hs).2 op hop) (by simp)⟩ },
    hS.tail (fun f hf _ => hkeep f hf (by simp)) (by simp)⟩

theorem sound_stop : Sound D .stop := by
  intro s s' detached rest a l hL hS h
  have hn := hS.1
  have hclosed : ∀ f ∈ closed, Holds s f := fun f hf => hn f (List.mem_cons_of_mem _ hf)
  cases a <;> cases h
  refine sound_emit hL hS (by simp) ⟨hn .claimed (by simp), hclosed⟩ (fun c hc => ?_) ?_
  · have hjoined : Joined s c := hclosed (.joined c) (by simp [closed, cameras])
    exact hL.joined c (hjoined.resolve_left (hL.spawned c hc))
  · simp [Holds, Core.emit]

theorem sound_stopReturn : Sound D .stopReturn := by
  intro s s' detached rest a l hL hS h
  cases exec_step h
  exact sound_emit hL hS (by simp) (hS.1 .stopCalled (by simp)) trivial (by simp [Holds, Core.emit])

theorem sound_finishCleanup : Sound D .finishCleanup := by
  intro s s' detached rest a l hL hS h
  have hstopped : .stopReturned ∈ s.events := hS.1 .stopped (by simp)
  have hclaimed := (hL.stop (hL.stopReturned hstopped)).1
  cases a <;> cases h
  have hkeep : Survive [.incomplete] s
      { s with running := false, cleanupQuiesced := true, cleanupComplete := true } := by
    intro f hf hlost
    cases f with
    | done op => cases op <;> exact hf
    | incomplete => simp at hlost
    | complete => rfl
    | finished => exact .inl rfl
    | verdict result => exact fun _ _ => rfl
    | _ => exact hf
  refine ⟨{ hL with
    unclaimed := fun hc => absurd (hclaimed.symm.trans hc) (by simp)
    complete := fun _ => ⟨hstopped, rfl⟩
    returned := fun _ => rfl
    startFailed := fun hs => ⟨(hL.startFailed hs).1, .inl rfl⟩
    stop := fun hs => ⟨hclaimed, fun f hf => hkeep f ((hL.stop hs).2 f hf) ?_⟩
    handled := fun hs => ⟨(hL.handled hs).1, fun op hop =>
      hkeep (.done op) ((hL.handled hs).2 op hop) (by simp)⟩ }, hS.tail hkeep ?_⟩
  · rw [List.mem_singleton]
    rintro rfl
    simp [closed] at hf
  · simp [Holds, Finished]

theorem sound_clearSink : Sound D .clearSink := by
  intro s s' detached rest a l hL hS h
  cases a <;> cases h
  exact Still.sound (by constructor <;> rfl) hL hS rfl

theorem sound_clearNotifier : Sound D .clearNotifier := by
  intro s s' detached rest a l hL hS h
  cases a <;> cases h
  exact Still.sound (by constructor <;> rfl) hL hS rfl

theorem sound_returnStart (result : StartResult) : Sound D (.returnStart result) := by
  intro s s' detached rest a l hL hS h
  have hn := hS.1
  cases a <;> cases h
  have hrecorded : Holds s .recorded := by cases result <;> exact hn _ (by simp)
  refine ⟨hL.emit ⟨?_, ?_⟩ trivial, safe_done hrecorded⟩
  · cases result <;> exact hn .claimed (by simp)
  · rintro rfl
    exact ⟨hn .terminal (by simp), hn .finished (by simp)⟩

theorem sound_returnCleanup (result : Bool) : Sound D (.returnCleanup result) := by
  intro s s' detached rest a l hL hS h
  have hverdict : Holds s (.verdict result) := hS.1 _ (by simp)
  have hrecorded : Holds s .recorded := hS.1 _ (by simp)
  cases a <;> cases h
  exact ⟨hL.emit (fun hc hr => hverdict hr hc) trivial, safe_done hrecorded⟩

theorem sound : ∀ op : OwnerOp, Sound D op
  | .common op => sound_common op
  | .startGuard config sink notifier => sound_startGuard config sink notifier
  | .validateConfig => sound_validateConfig
  | .makeQueue c => sound_makeQueue c
  | .openAdmission => sound_openAdmission
  | .setFps => sound_setFps
  | .setOutputRotation => sound_setOutputRotation
  | .spawnWorker c => sound_spawnWorker c
  | .startFrameSet => sound_startFrameSet
  | .startFrameSetReturn => sound_startFrameSetReturn
  | .setRunning => sound_setRunning
  | .cleanupGuard site => sound_cleanupGuard site
  | .setTerminal => sound_setTerminal
  | .detachQueue c => sound_detachQueue c
  | .clearBatches => sound_clearBatches
  | .joinWorker site c => sound_joinWorker site c
  | .storeUnquiesced => sound_storeUnquiesced
  | .stop => sound_stop
  | .stopReturn => sound_stopReturn
  | .finishCleanup => sound_finishCleanup
  | .clearSink => sound_clearSink
  | .clearNotifier => sound_clearNotifier
  | .returnStart result => sound_returnStart result
  | .returnCleanup result => sound_returnCleanup result

end Calls
end RoboBaton.Camera
