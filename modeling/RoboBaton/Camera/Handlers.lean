import RoboBaton.Camera.Protocol

/-! The callbacks and the workers: where each can be, what their failure handlers have done
when they end, and what they leave alone. -/

namespace RoboBaton.Camera
open Trace Discipline
variable {D : Type} {s s' : Core D}

def Known (s : Core D) (f : Fact) : Prop := f.common = true ∧ Holds s f

def Keeps (s s' : Core D) : Prop := ∀ f, Known s f → Known s' f

theorem Survive.keeps (h : Survive [] s s') : Keeps s s' := fun f hf => ⟨hf.1, h f hf.2 (by simp)⟩

theorem keeps_common (spurious : Bool) (op : CommonOp) : Keeps s (op.exec spurious s).1 := by
  rintro f ⟨hc, hf⟩
  refine ⟨hc, (common_holds spurious op).1 f hf ?_⟩
  cases op <;> simp
  rintro rfl
  cases hc

theorem inserted_free (spurious : Bool) (s : Core D) (op : CommonOp) :
    ∀ op' ∈ (op.exec spurious s).2,
      (∀ f ∈ (commonContract op').needs,
        f ∈ (commonContract op).needs ∧ f ∉ (commonContract op).loses) ∧
      (commonContract op').loses = [] := by
  intro op' hop'
  cases op with
  | access c a =>
    obtain ⟨b, -, rfl⟩ := List.mem_map.mp hop'
    exact ⟨by simp, rfl⟩
  | exchangeStop =>
    simp only [CommonOp.exec] at hop'
    split at hop'
    · cases hop'
    · rw [List.mem_singleton.mp hop']
      exact ⟨by simp, rfl⟩
  | exchangeFailed =>
    simp only [CommonOp.exec] at hop'
    split at hop'
    · rw [List.mem_singleton.mp hop']
      exact ⟨by simp, rfl⟩
    · cases hop'
  | _ => cases hop'

theorem safe_advance {ends : List Fact} {op : CommonOp} {ops : List CommonOp} (spurious : Bool)
    (hL : Ledger s) (h : (commonRules ends).Safe (Known s) (op :: ops)) :
    Ledger (op.exec spurious s).1 ∧
      (commonRules ends).Safe (Known (op.exec spurious s).1) ((op.exec spurious s).2 ++ ops) := by
  refine ⟨common_ledger hL spurious op fun f hf => (h.1 f hf).2,
    Rules.Safe.prepend ?_ fun op' hop' => (inserted_free spurious s op op' hop').imp_left
      fun hn f hf => keeps_common spurious op f (h.1 f (hn f hf).1)⟩
  refine h.tail (fun f hf _ => keeps_common spurious op f hf) fun f hf => ⟨?_, ?_⟩
  · cases op <;> simp_all
  · exact (common_holds spurious op).2 f hf

theorem pending_failed (spurious : Bool) (s : Core D) {op : CommonOp} {ops : List CommonOp}
    (h : .exchangeFailed ∈ op :: ops) :
    (op.exec spurious s).1.failed = true ∨ .exchangeFailed ∈ (op.exec spurious s).2 ++ ops := by
  rcases List.mem_cons.mp h with rfl | hmem
  · exact .inl rfl
  · exact .inr (List.mem_append_right _ hmem)

def handled : List Fact := failureOps.map .done

theorem safe_record {ends : List Fact} {known : Fact → Prop} (c : CameraId)
    (as : List Metrics.Access) (h : ∀ f ∈ ends, known f) :
    (commonRules ends).Safe known (record s c as) := by
  rw [← List.append_nil (record s c as)]
  refine Rules.Safe.prepend h fun op hop => ?_
  unfold record at hop
  split at hop
  · obtain ⟨a, -, rfl⟩ := List.mem_map.mp hop
    exact ⟨by simp, rfl⟩
  · cases hop

theorem safe_callbackFailure {known : Fact → Prop} (hc : known .claimed) (hb : known .blamed) :
    (commonRules handled).Safe known callbackFailure.pending := by
  simp [callbackFailure, handled, failureOps, closeAdmissionAndRequestStop, recordFailure, cameras,
    List.finRange, hc, hb]

theorem safe_workerFailure {known : Fact → Prop} (hc : known .claimed) (hb : known .blamed) :
    (commonRules handled).Safe known workerFailure.pending := by
  simp [workerFailure, handled, failureOps, closeAdmissionAndRequestStop, recordFailure, cameras,
    List.finRange, hc, hb]

theorem Ledger.claimed (hL : Ledger s) (hopened : s.admissionOpened = true) :
    s.startClaimed = true := by
  by_contra hc
  have := (hL.unclaimed (Bool.eq_false_of_not_eq_true hc)).1
  rw [hopened] at this
  cases this

/-! ### Steps that the ledger does not see -/

structure Still (s s' : Core D) : Prop where
  accepting : s'.accepting = s.accepting
  queues : s'.queues = s.queues
  workers : s'.workers = s.workers
  failed : s'.failed = s.failed
  acceptingClosed : s'.acceptingClosed = s.acceptingClosed
  stopRequested : s'.stopRequested = s.stopRequested
  startClaimed : s'.startClaimed = s.startClaimed
  terminal : s'.terminal = s.terminal
  cleanupComplete : s'.cleanupComplete = s.cleanupComplete
  cleanupQuiesced : s'.cleanupQuiesced = s.cleanupQuiesced
  admissionOpened : s'.admissionOpened = s.admissionOpened
  admissionClosed : s'.admissionClosed = s.admissionClosed
  events : s'.events = s.events
  incidents : s'.incidents = s.incidents

theorem Still.survive (h : Still s s') (lost : List Fact) : Survive lost s s' := by
  intro f hf _
  cases f with
  | done op => cases op <;> simp_all [Holds, CommonOp.Done, h.queues, h.failed, h.acceptingClosed,
      h.stopRequested, h.admissionClosed]
  | recorded =>
    rw [Holds, h.incidents, h.failed]
    exact hf
  | _ => simp_all [Holds, Emptied, Joined, Finished, h.queues, h.workers, h.startClaimed, h.terminal,
      h.cleanupComplete, h.admissionOpened, h.admissionClosed, h.events, h.incidents]

theorem Still.ledger (h : Still s s') (hL : Ledger s) : Ledger s' := by
  constructor
  case stop =>
    rw [h.events, h.startClaimed]
    exact fun hs => ⟨(hL.stop hs).1, fun f hf => h.survive [] f ((hL.stop hs).2 f hf) (by simp)⟩
  case handled =>
    rw [h.events, h.admissionOpened]
    exact fun hs => ⟨(hL.handled hs).1, fun op hop =>
      h.survive [] (.done op) ((hL.handled hs).2 op hop) (by simp)⟩
  case startFailed =>
    rw [h.events, h.terminal]
    exact fun hs => ⟨(hL.startFailed hs).1,
      h.survive [] .finished (hL.startFailed hs).2 (by simp)⟩
  all_goals simp only [h.accepting, h.queues, h.workers, h.failed, h.stopRequested, h.startClaimed,
    h.terminal, h.cleanupComplete, h.cleanupQuiesced, h.admissionOpened, h.admissionClosed,
    h.events, h.incidents]
  case unclaimed => exact hL.unclaimed
  case accepting => exact hL.accepting
  case workers => exact hL.workers
  case stoppedQueue => exact hL.stoppedQueue
  case stopReturned => exact hL.stopReturned
  case complete => exact hL.complete
  case returned => exact hL.returned
  case startReturned => exact hL.startReturned
  case spawned => exact hL.spawned
  case joined => exact hL.joined
  case failed => exact hL.failed
  case ordered => exact hL.ordered

/-! ### What one thread sees of the others -/

/-- What a step of another thread may do, as the thread `j` sees it. Queues are made while no
callback has been admitted and no worker exists. -/
structure Rely (j : Thread D) (s s' : Core D) : Prop where
  keeps : s.admissionOpened = true → Keeps s s'
  opened : s.admissionOpened = true → s'.admissionOpened = true
  failed : s.failed = true → s'.failed = true
  inCallback : ∀ d, j = .dispatcher d → s'.inCallback d = s.inCallback d
  workers : ∀ c, j = .worker c → s'.workers c = s.workers c ∨
    s.workers c = .none ∧ s'.workers c = .running ∨
    s.workers c = .finished ∧ s'.workers c = .joined
  stopReturned : .stopReturned ∈ s'.events →
    .stopReturned ∈ s.events ∨ ∀ d, s.inCallback d = false
  incidents : ∀ i ∈ s'.incidents, i.thread = j → i ∈ s.incidents

/-- What a step of a callback or of a worker, the thread `i`, guarantees. -/
structure Guarantee (i : Thread D) (s s' : Core D) : Prop where
  survive : Survive [] s s'
  opened : s'.admissionOpened = s.admissionOpened
  failed : s.failed = true → s'.failed = true
  inCallback : ∀ d, .dispatcher d ≠ i → s'.inCallback d = s.inCallback d
  workers : ∀ c, .worker c ≠ i → s'.workers c = s.workers c
  stopReturned : .stopReturned ∈ s'.events → .stopReturned ∈ s.events
  incidents : ∀ k ∈ s'.incidents, k ∈ s.incidents ∨ k.thread = i

theorem Guarantee.rely {i j : Thread D} (h : Guarantee i s s') (hj : j ≠ i) : Rely j s s' where
  keeps _ := h.survive.keeps
  opened hs := h.opened.trans hs
  failed := h.failed
  inCallback d hd := h.inCallback d (hd ▸ hj)
  workers c hc := .inl (h.workers c (hc ▸ hj))
  stopReturned hs := .inl (h.stopReturned hs)
  incidents k hk hkj := (h.incidents k hk).resolve_right fun hki => hj (hkj.symm.trans hki)

theorem Still.guarantee {i : Thread D} (h : Still s s')
    (hin : ∀ d, .dispatcher d ≠ i → s'.inCallback d = s.inCallback d) : Guarantee i s s' where
  survive := h.survive []
  opened := h.admissionOpened
  failed hs := h.failed.trans hs
  inCallback := hin
  workers c _ := by rw [h.workers]
  stopReturned := by rw [h.events]; exact id
  incidents := by rw [h.incidents]; exact fun _ => .inl

theorem guarantee_incident {i : Thread D} (k : Incident D) (hk : k.thread = i)
    (hi : i ≠ .owner) : Guarantee i s (s.incident k) where
  survive f hf _ := by
    by_cases hrecorded : f = .recorded
    · subst hrecorded
      intro x hx hthread
      rcases Core.mem_incident.mp hx with hx | rfl
      · exact hf x hx hthread
      · exact absurd (hk.symm.trans hthread) hi
    · exact Holds.incident k f hf (by simpa using hrecorded)
  opened := rfl
  failed := id
  inCallback _ _ := rfl
  workers _ _ := rfl
  stopReturned := id
  incidents x hx := (Core.mem_incident.mp hx).imp_right fun heq =>
    (congrArg Incident.thread heq).trans hk

theorem guarantee_emit {i : Thread D} {e : Event} (hne : e ≠ .stopReturned)
    (hstart : ∀ producer cameraMask, e ≠ .startFrameSet producer cameraMask) : Guarantee i s (s.emit e) where
  survive := Holds.emit e hstart
  opened := rfl
  failed := id
  inCallback _ _ := rfl
  workers _ _ := rfl
  stopReturned hs := (Core.mem_emit.mp hs).resolve_right hne.symm
  incidents _ := .inl

theorem Guarantee.trans {i : Thread D} {t : Core D} (h : Guarantee i s t) (h' : Guarantee i t s') :
    Guarantee i s s' where
  survive f hf _ := h'.survive f (h.survive f hf (by simp)) (by simp)
  opened := h'.opened.trans h.opened
  failed := h'.failed ∘ h.failed
  inCallback d hd := (h'.inCallback d hd).trans (h.inCallback d hd)
  workers c hc := (h'.workers c hc).trans (h.workers c hc)
  stopReturned := h.stopReturned ∘ h'.stopReturned
  incidents k hk := (h'.incidents k hk).elim (h.incidents k) .inr

theorem common_stopReturned (spurious : Bool) (op : CommonOp)
    (hs : .stopReturned ∈ (op.exec spurious s).1.events) : .stopReturned ∈ s.events := by
  cases op with
  | requestStop => simpa [CommonOp.exec, Core.emit] using hs
  | _ => exact hs

theorem guarantee_common {i : Thread D} (hopened : s.admissionOpened = true) (spurious : Bool)
    (op : CommonOp) : Guarantee i s (op.exec spurious s).1 where
  survive f hf _ := by
    refine (common_holds spurious op).1 f hf fun hlost => ?_
    obtain rfl : f = .virgin := by cases op <;> simp_all
    exact absurd (hf.1.symm.trans hopened) (by simp)
  opened := by cases op <;> rfl
  failed hs := by cases op <;> first | exact hs | rfl
  inCallback _ _ := by cases op <;> rfl
  workers _ _ := by cases op <;> rfl
  stopReturned := common_stopReturned spurious op
  incidents k hk := .inl (by cases op <;> exact hk)

theorem guarantee_setQueue {i : Thread D} {c : CameraId} {q : FrameQueue}
    (hq : s.queues c = some q) (hlive : q.stopped = false) (q' : FrameQueue) :
    Guarantee i s (s.setQueue c q') where
  survive := Holds.setQueue hq hlive
  opened := rfl
  failed := id
  inCallback _ _ := rfl
  workers _ _ := rfl
  stopReturned := id
  incidents _ := .inl

theorem still_refl (s : Core D) : Still s s := by constructor <;> rfl

theorem still_release (s : Core D) (job : RetainedFrameJob) : Still s (s.release job) := by
  constructor <;> rfl

/-! ### Callbacks -/

def Outside (l : Code CallbackPc) : Prop :=
  l = .of .idle ∨ (∃ set, l = .of (.loadAccepting set)) ∨ l = .of (.leave false)

@[simp] def CallbackPc.ends : CallbackPc → List Fact
  | .unwind _ => [.blamed]
  | .leave true => handled
  | _ => []

def CallbackFailing (l : Code CallbackPc) : Prop :=
  (∃ job, l.pc = .unwind job) ∨ l.pc = .leave true ∧ .exchangeFailed ∈ l.pending

structure CallbackOk (s : Core D) (d : D) (l : Code CallbackPc) : Prop where
  returned : s.inCallback d = false → l = .of .idle
  inside : Outside l ∨ s.admissionOpened = true
  quiesced : .stopReturned ∈ s.events → Outside l
  safe : (commonRules l.pc.ends).Safe (Known s) l.pending
  blamed : .callbackException d ∈ s.incidents → s.failed = true ∨ CallbackFailing l

theorem Outside.safe {l : Code CallbackPc} {known : Fact → Prop} (h : Outside l) :
    (commonRules l.pc.ends).Safe known l.pending := by
  rcases h with rfl | ⟨set, rfl⟩ | rfl <;> simp [Code.of]

theorem Still.setInCallback [DecidableEq D] {d : D} (value : Bool) :
    Still s { s with inCallback := Function.update s.inCallback d value } ∧
      Guarantee (.dispatcher d) s
        { s with inCallback := Function.update s.inCallback d value } := by
  have hs : Still s { s with inCallback := Function.update s.inCallback d value } := by
    constructor <;> rfl
  exact ⟨hs, hs.guarantee fun d' hd => Function.update_of_ne (by simpa using hd) ..⟩

theorem CallbackOk.congr {d : D} {l : Code CallbackPc} (h : CallbackOk s d l)
    (hr : Rely (.dispatcher d) s s') : CallbackOk s' d l where
  returned hd := h.returned ((hr.inCallback d rfl).symm.trans hd)
  inside := h.inside.imp_right hr.opened
  quiesced hs := (hr.stopReturned hs).elim h.quiesced fun hall => .inl (h.returned (hall d))
  safe := h.inside.elim Outside.safe fun hopened => h.safe.mono (hr.keeps hopened)
  blamed hi := (h.blamed (hr.incidents _ hi rfl)).imp_left hr.failed

section Callback
variable {d : D} {l l' : Code CallbackPc}

theorem CallbackOk.inner (h : CallbackOk s d l) (hin : ¬ Outside l)
    (hg : Guarantee (.dispatcher d) s s') (hcall : s'.inCallback = s.inCallback)
    (hsafe : (commonRules l'.pc.ends).Safe (Known s') l'.pending)
    (hblamed : .callbackException d ∈ s'.incidents → s'.failed = true ∨ CallbackFailing l') :
    CallbackOk s' d l' where
  returned hd := (hin (.inl (h.returned (hcall ▸ hd)))).elim
  inside := .inr (hg.opened.trans (h.inside.resolve_left hin))
  quiesced hs := (hin (h.quiesced (hg.stopReturned hs))).elim
  safe := hsafe
  blamed := hblamed

theorem CallbackOk.calm (h : CallbackOk s d l) (hcalm : ¬ CallbackFailing l)
    (hi : s'.incidents = s.incidents) (hf : s'.failed = s.failed) :
    .callbackException d ∈ s'.incidents → s'.failed = true ∨ CallbackFailing l' := by
  rw [hi, hf]
  exact fun hmem => .inl ((h.blamed hmem).resolve_right hcalm)

theorem CallbackOk.still (h : CallbackOk s d l) (hL : Ledger s) (hin : ¬ Outside l)
    (hcalm : ¬ CallbackFailing l) (hs : Still s s') (hcall : s'.inCallback = s.inCallback)
    (hsafe : (commonRules l'.pc.ends).Safe (Known s') l'.pending) :
    Ledger s' ∧ CallbackOk s' d l' ∧ Guarantee (.dispatcher d) s s' :=
  have hg : Guarantee (.dispatcher d) s s' := hs.guarantee fun _ _ => by rw [hcall]
  ⟨hs.ledger hL, h.inner hin hg hcall hsafe (h.calm hcalm hs.incidents hs.failed), hg⟩

theorem CallbackOk.throws (h : CallbackOk s d l) (hL : Ledger s) (hin : ¬ Outside l)
    (hfailing : CallbackFailing l')
    (hsafe : ∀ known : Fact → Prop, known .claimed → known .blamed →
      (commonRules l'.pc.ends).Safe known l'.pending) :
    Ledger (s.incident (.callbackException d)) ∧
      CallbackOk (s.incident (.callbackException d)) d l' ∧
      Guarantee (.dispatcher d) s (s.incident (.callbackException d)) := by
  have hg : Guarantee (.dispatcher d) s (s.incident (.callbackException d)) :=
    guarantee_incident _ rfl (by simp)
  have hclaimed := (hL.incident (.callbackException d)).claimed (h.inside.resolve_left hin)
  refine ⟨hL.incident _, h.inner hin hg rfl (hsafe _ ⟨rfl, hclaimed⟩ ⟨rfl, ?_⟩) fun _ =>
    .inr hfailing, hg⟩
  exact List.append_ne_nil_of_right_ne_nil _ (by simp)

theorem callbackFailure_failing : CallbackFailing callbackFailure :=
  .inr ⟨rfl, by simp [callbackFailure, recordFailure]⟩

theorem CallbackOk.idle (h : .callbackException d ∈ s.incidents → s.failed = true ∨
    CallbackFailing (.of .idle)) : CallbackOk s d (.of .idle) where
  returned _ := rfl
  inside := .inl (.inl rfl)
  quiesced _ := .inl rfl
  safe := by simp [Code.of]
  blamed := h

theorem callback_ok [DecidableEq D] (hL : Ledger s) (hl : CallbackOk s d l)
    (h : CallbackStep d s l s' l') :
    Ledger s' ∧ CallbackOk s' d l' ∧ Guarantee (.dispatcher d) s s' := by
  cases h with
  | common spurious op ops pc =>
    have hin : ¬ Outside ⟨op :: ops, pc⟩ := by simp [Outside, Code.of]
    have hg := guarantee_common (i := .dispatcher d) (hl.inside.resolve_left hin) spurious op
    obtain ⟨hL', hsafe⟩ := safe_advance spurious hL hl.safe
    refine ⟨hL', hl.inner hin hg (by cases op <;> rfl) hsafe fun hi => ?_, hg⟩
    have hi' : .callbackException d ∈ s.incidents := by cases op <;> exact hi
    rcases hl.blamed hi' with hf | hf | ⟨hpc, hmem⟩
    · exact .inl (hg.failed hf)
    · exact .inr (.inl hf)
    · exact (pending_failed spurious s hmem).imp_right fun hmem => .inr ⟨hpc, hmem⟩
  | enter set =>
    obtain ⟨hs, hg⟩ := Still.setInCallback (s := s) (d := d) true
    refine ⟨hs.ledger hL, ?_, hg⟩
    constructor
    · intro hd
      simp at hd
    · exact .inl (.inr (.inl ⟨set, rfl⟩))
    · exact fun _ => .inr (.inl ⟨set, rfl⟩)
    · simp [Code.of]
    · exact hl.calm (by simp [CallbackFailing, Code.of]) rfl rfl
  | refused set hclosed =>
    refine ⟨hL, ?_, (still_refl s).guarantee fun _ _ => rfl⟩
    constructor
    · intro hd
      cases hl.returned hd
    · exact .inl (.inr (.inr rfl))
    · exact fun _ => .inr (.inr rfl)
    · simp [Code.of]
    · exact hl.calm (by simp [CallbackFailing, Code.of]) rfl rfl
  | accepted set hopen =>
    refine ⟨hL, ?_, (still_refl s).guarantee fun _ _ => rfl⟩
    constructor
    · intro hd
      cases hl.returned hd
    · exact .inr (hL.accepting hopen).1
    · -- admission is closed before `sc132_stop` is called
      intro hs
      have hclosed : s.admissionClosed = true :=
        (hL.stop (hL.stopReturned hs)).2 (.done .storeAccepting) (by simp [closed])
      rw [(hL.accepting hopen).2] at hclosed
      cases hclosed
    · simp [Code.of]
    · exact hl.calm (by simp [CallbackFailing, Code.of]) rfl rfl
  | pushed scan c job q q' hq hp =>
    obtain ⟨hlive, -, rfl⟩ := FrameQueue.push_eq_pushed.mp hp
    have harrive : Still s (s.arrive c job .admitted q.queue.length) := by constructor <;> rfl
    have hg : Guarantee (.dispatcher d) s _ := (harrive.guarantee fun _ _ => rfl).trans
      (guarantee_setQueue (s := s.arrive c job .admitted q.queue.length) hq hlive
        { q with queue := q.queue ++ [job] })
    refine ⟨(harrive.ledger hL).setQueue hq hlive hlive, hl.inner (by simp [Outside, Code.of]) hg
      rfl (by simp [Code.of]) ?_, hg⟩
    exact hl.calm (by simp [CallbackFailing, Code.of]) rfl rfl
  | throwHeader | throwItem | throwRetain =>
    exact hl.throws hL (by simp [Outside, Code.of]) callbackFailure_failing
      fun _ => safe_callbackFailure
  | throwPush scan c job q q' hq hp =>
    exact hl.throws hL (by simp [Outside, Code.of]) (.inl ⟨job, rfl⟩) fun _ _ hb => by
      simpa [Code.of] using hb
  | unwind job =>
    have hin : ¬ Outside (.of (.unwind job)) := by simp [Outside, Code.of]
    have hs := still_release s job
    have hg : Guarantee (.dispatcher d) s (s.release job) := hs.guarantee fun _ _ => rfl
    have hb : Known s .blamed := hl.safe .blamed (by simp [Code.of])
    have hclaimed := hL.claimed (hl.inside.resolve_left hin)
    exact ⟨hs.ledger hL, hl.inner hin hg rfl (safe_callbackFailure ⟨rfl, hclaimed⟩ hb) fun _ =>
      .inr callbackFailure_failing, hg⟩
  | leave failed =>
    have hcalm : ¬ CallbackFailing (.of (.leave failed)) := by simp [CallbackFailing, Code.of]
    cases failed with
    | false =>
      obtain ⟨hs, hg⟩ := Still.setInCallback (s := s) (d := d) false
      exact ⟨hs.ledger hL, .idle (hl.calm hcalm rfl rfl), hg⟩
    | true =>
      have hin : ¬ Outside (.of (.leave true)) := by simp [Outside, Code.of]
      have hdone : ∀ op ∈ failureOps, op.Done s := fun op hop =>
        (hl.safe (.done op) (by simpa [Code.of, handled] using hop)).2
      obtain ⟨hs, hg⟩ := Still.setInCallback (s := s.emit .callbackFailed) (d := d) false
      exact ⟨hs.ledger (hL.emit ⟨hl.inside.resolve_left hin, hdone⟩ trivial),
        .idle (hl.calm hcalm rfl rfl), (guarantee_emit (by simp) (by simp)).trans hg⟩
  -- the rest is between two looks of the other threads
  | header | complete | retain | rejected =>
    exact hl.still hL (by simp [Outside, Code.of]) (by simp [CallbackFailing, Code.of])
      (by constructor <;> rfl) rfl (by simp [Code.of])
  | info scan c frame status info nowNs hindex hcheck hinfo =>
    exact hl.still hL (by simp [Outside, Code.of]) (by simp [CallbackFailing, Code.of])
      (still_refl s) rfl (safe_record c _ (by simp))
  | dropped scan c job =>
    exact hl.still hL (by simp [Outside, Code.of]) (by simp [CallbackFailing, Code.of])
      (still_release s job) rfl (safe_record c _ (by simp))

end Callback

/-! ### Workers -/

@[simp] def WorkerPc.ends : WorkerPc → List Fact
  | .unwind _ => [.blamed]
  | .finish true => handled
  | _ => []

def WorkerFailing (l : Code WorkerPc) : Prop :=
  (∃ job, l.pc = .unwind job) ∨ l.pc = .finish true ∧ .exchangeFailed ∈ l.pending

structure WorkerOk (s : Core D) (c : CameraId) (l : Code WorkerPc) : Prop where
  unborn : s.workers c = .none → l = .of .pop
  ended : s.workers c = .finished ∨ s.workers c = .joined → l = .of .finished
  safe : (commonRules l.pc.ends).Safe (Known s) l.pending
  blamed : .sinkException c ∈ s.incidents → s.failed = true ∨ WorkerFailing l

theorem WorkerOk.congr {c : CameraId} {l : Code WorkerPc} (h : WorkerOk s c l) (hL : Ledger s)
    (hr : Rely (.worker c) s s') : WorkerOk s' c l where
  unborn hw := by
    rcases hr.workers c rfl with he | ⟨-, he⟩ | ⟨-, he⟩
    · exact h.unborn (he.symm.trans hw)
    · exact absurd (he.symm.trans hw) (by simp)
    · exact absurd (he.symm.trans hw) (by simp)
  ended hw := by
    rcases hr.workers c rfl with he | ⟨-, he⟩ | ⟨he, -⟩
    · exact h.ended (by rwa [he] at hw)
    · rw [he] at hw
      simp at hw
    · exact h.ended (.inl he)
  safe := by
    by_cases hw : s.workers c = .none
    · rw [h.unborn hw]
      simp [Code.of]
    · exact h.safe.mono (hr.keeps (hL.workers c hw))
  blamed hi := (h.blamed (hr.incidents _ hi rfl)).imp_left hr.failed

section Worker
variable {c : CameraId} {l l' : Code WorkerPc}

theorem workerFailure_failing : WorkerFailing workerFailure :=
  .inr ⟨rfl, by simp [workerFailure, recordFailure]⟩

theorem WorkerOk.inner (hrunning : s.workers c = .running) (hw : s'.workers = s.workers)
    (hsafe : (commonRules l'.pc.ends).Safe (Known s') l'.pending)
    (hblamed : .sinkException c ∈ s'.incidents → s'.failed = true ∨ WorkerFailing l') :
    WorkerOk s' c l' where
  unborn h := by rw [hw, hrunning] at h; cases h
  ended h := by rw [hw, hrunning] at h; simp at h
  safe := hsafe
  blamed := hblamed

theorem WorkerOk.calm (h : WorkerOk s c l) (hcalm : ¬ WorkerFailing l)
    (hi : s'.incidents = s.incidents) (hf : s'.failed = s.failed) :
    .sinkException c ∈ s'.incidents → s'.failed = true ∨ WorkerFailing l' := by
  rw [hi, hf]
  exact fun hmem => .inl ((h.blamed hmem).resolve_right hcalm)

theorem WorkerOk.still (h : WorkerOk s c l) (hL : Ledger s) (hrunning : s.workers c = .running)
    (hcalm : ¬ WorkerFailing l) (hs : Still s s') (hcall : s'.inCallback = s.inCallback)
    (hsafe : (commonRules l'.pc.ends).Safe (Known s') l'.pending) :
    Ledger s' ∧ WorkerOk s' c l' ∧ Guarantee (.worker c) s s' :=
  ⟨hs.ledger hL, .inner hrunning hs.workers hsafe (h.calm hcalm hs.incidents hs.failed),
    hs.guarantee fun _ _ => by rw [hcall]⟩

theorem WorkerOk.throws (hL : Ledger s) (hrunning : s.workers c = .running)
    (hfailing : WorkerFailing l')
    (hsafe : ∀ known : Fact → Prop, known .blamed →
      (commonRules l'.pc.ends).Safe known l'.pending) :
    Ledger (s.incident (.sinkException c)) ∧ WorkerOk (s.incident (.sinkException c)) c l' ∧
      Guarantee (.worker c) s (s.incident (.sinkException c)) := by
  refine ⟨hL.incident _, .inner hrunning rfl (hsafe _ ⟨rfl, ?_⟩) fun _ => .inr hfailing,
    guarantee_incident _ rfl (by simp)⟩
  exact List.append_ne_nil_of_right_ne_nil _ (by simp)

theorem WorkerOk.finish (h : .sinkException c ∈ (s.setWorker c .finished).incidents →
    (s.setWorker c .finished).failed = true ∨ WorkerFailing (.of .finished)) :
    WorkerOk (s.setWorker c .finished) c (.of .finished) where
  unborn hw := absurd ((s.setWorker_self c .finished).symm.trans hw) (by simp)
  ended _ := rfl
  safe := by simp [Code.of]
  blamed := h

theorem guarantee_finishWorker (hrunning : s.workers c = .running) :
    Guarantee (.worker c) s (s.setWorker c .finished) where
  survive := Holds.finishWorker hrunning
  opened := rfl
  failed := id
  inCallback _ _ := rfl
  workers c' hc := s.setWorker_of_ne _ (by simpa using hc)
  stopReturned := id
  incidents _ := .inl

theorem safe_recordJob {ends : List Fact} {known : Fact → Prop} (job : RetainedFrameJob)
    (as : List Metrics.Access) (h : ∀ f ∈ ends, known f) :
    (commonRules ends).Safe known (recordJob s job as) := by
  unfold recordJob
  split
  · exact safe_record _ _ h
  · exact h

theorem worker_ok {cameraInfo : Bool} (hL : Ledger s) (hl : WorkerOk s c l)
    (hrunning : s.workers c = .running) (h : WorkerStep cameraInfo c s l s' l') :
    Ledger s' ∧ WorkerOk s' c l' ∧ Guarantee (.worker c) s s' := by
  have hopened : s.admissionOpened = true := hL.workers c (by simp [hrunning])
  cases h with
  | common spurious op ops pc =>
    have hg := guarantee_common (i := .worker c) hopened spurious op
    obtain ⟨hL', hsafe⟩ := safe_advance spurious hL hl.safe
    refine ⟨hL', .inner hrunning (by cases op <;> rfl) hsafe fun hi => ?_, hg⟩
    have hi' : .sinkException c ∈ s.incidents := by cases op <;> exact hi
    rcases hl.blamed hi' with hf | hf | ⟨hpc, hmem⟩
    · exact .inl (hg.failed hf)
    · exact .inr (.inl hf)
    · exact (pending_failed spurious s hmem).imp_right fun hmem => .inr ⟨hpc, hmem⟩
  | popped q job q' hq hp =>
    obtain ⟨hlive, rest, -, rfl⟩ := FrameQueue.pop_eq_popped.mp hp
    have hs : Still (s.setQueue c { q with queue := rest })
        { s.setQueue c { q with queue := rest } with
          popped := Function.update s.popped c (s.popped c ++ [job]) } := by
      constructor <;> rfl
    have hg : Guarantee (.worker c) s _ :=
      (guarantee_setQueue hq hlive { q with queue := rest }).trans
        (hs.guarantee fun _ _ => rfl)
    refine ⟨hs.ledger (hL.setQueue hq hlive hlive), .inner hrunning rfl (by simp [Code.of]) ?_, hg⟩
    exact hl.calm (by simp [WorkerFailing, Code.of]) rfl rfl
  | throwCall job =>
    exact WorkerOk.throws hL hrunning (.inl ⟨job, rfl⟩) fun _ hb => by simpa [Code.of] using hb
  | throwImage job | throwInfo job =>
    -- counted first, and recorded by the handler
    exact WorkerOk.throws hL hrunning (.inl ⟨job, rfl⟩) fun _ hb =>
      safe_recordJob _ _ (by simpa using hb)
  | unwind job =>
    have hb : Known s .blamed := hl.safe .blamed (by simp [Code.of])
    exact ⟨(still_release s job).ledger hL, .inner hrunning rfl
      (safe_workerFailure ⟨rfl, hL.claimed hopened⟩ hb) fun _ => .inr workerFailure_failing,
      (still_release s job).guarantee fun _ _ => rfl⟩
  | finish failed =>
    have hcalm : ¬ WorkerFailing (.of (.finish failed)) := by simp [WorkerFailing, Code.of]
    cases failed with
    | false =>
      exact ⟨hL.finishWorker hrunning, .finish (hl.calm hcalm rfl rfl),
        guarantee_finishWorker hrunning⟩
    | true =>
      have hdone : ∀ op ∈ failureOps, op.Done s := fun op hop =>
        (hl.safe (.done op) (by simpa [Code.of, handled] using hop)).2
      exact ⟨(hL.emit (e := .workerFailed c) ⟨hopened, hdone⟩ trivial).finishWorker hrunning,
        .finish (hl.calm hcalm rfl rfl),
        (guarantee_emit (by simp) (by simp)).trans (guarantee_finishWorker hrunning)⟩
  | stopped | callSink =>
    exact hl.still hL hrunning (by simp [WorkerFailing, Code.of]) (still_refl s) rfl
      (by simp [Code.of])
  | published job latencyNs =>
    exact hl.still hL hrunning (by simp [WorkerFailing, Code.of]) (still_refl s) rfl
      (safe_recordJob _ _ (by simp))
  | publishedInfo job =>
    refine hl.still hL hrunning (by simp [WorkerFailing, Code.of]) (still_refl s) rfl ?_
    show (commonRules []).Safe _ (if _ then _ else _)
    split
    · exact safe_recordJob _ _ (by simp)
    · simp
  | reset job =>
    exact hl.still hL hrunning (by simp [WorkerFailing, Code.of]) (still_release s job) rfl
      (by simp [Code.of])

end Worker
end RoboBaton.Camera
