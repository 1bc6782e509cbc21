import RoboBaton.Imu.Drain
import RoboBaton.Library.Work
import RoboBaton.Metrics.Retries

/-! The work of the IMU core. A callback and a call of `Start` or `Stop` bring in a fixed amount
of it. The publisher pays for its steps with the samples that it takes out of the ring; only when
the ring is empty and `publisher_stop_` is not set it looks for one at no cost. -/

namespace RoboBaton.Imu
open WrapRing Metrics Transition
variable {P : Type} {t : Bool} {s s' : Core P}

/-! ### The publisher -/

def sampleWork : ℕ := 21

def PublisherPc.work : PublisherPc P → ℕ
  | .finished => 0
  | .callNotifier => 1
  | .exchangeNotified => 2
  | .storeFailed => 3
  | .closeAdmission => 4
  | .reloadWrite _ => 1
  | .loadStop _ => 2
  | .loadWrite _ => 3
  | .loadRead => 4
  | .loadFailed => 5
  -- paid for by the sample that leaves the ring
  | .storeRead _ _ => 1
  | .copySlot _ => 2
  | .record accesses then_ => accessWork accesses + 1 + then_.work
  | .publishTemperature => 8
  | .publishImu => 15
  | .stampImu => 16
  | .callSink _ => 17

def PublisherPc.debt : PublisherPc P → ℕ
  | .loadStop _ => 5
  | .reloadWrite _ => 5
  | _ => 0

def PublisherPc.looks : PublisherPc P → Bool
  | .loadFailed | .loadRead | .loadWrite _ | .loadStop _ | .reloadWrite _ => true
  | _ => false

def PublisherPc.resumes : PublisherPc P → Bool
  | .callSink _ => true
  | .publishTemperature => true
  | .closeAdmission => true
  | .loadFailed => true
  | _ => false

def Recording (m : Metrics) : PublisherPc P → Prop
  | .record accesses then_ => Steady m accesses ∧ then_.resumes = true ∧
      accessWork accesses + 1 + then_.work ≤ sampleWork
  | _ => True

theorem recording_resumes {m : Metrics} {l : PublisherPc P} (h : l.resumes = true) :
    Recording m l := by
  cases l with
  | record accesses then_ => cases h
  | _ => trivial

theorem recording_recordIf {m : Metrics} {accesses : List Access} {then_ : PublisherPc P}
    (hsteady : Steady m accesses) (hresumes : then_.resumes = true)
    (hwork : accessWork accesses + 1 + then_.work ≤ sampleWork) :
    Recording m (recordIf s accesses then_) := by
  unfold recordIf
  split
  · exact ⟨hsteady, hresumes, hwork⟩
  · exact recording_resumes hresumes

theorem recordIf_work (s : Core P) (accesses : List Access) (then_ : PublisherPc P) :
    (recordIf s accesses then_).work ≤ accessWork accesses + 1 + then_.work := by
  unfold recordIf
  split
  · exact le_rfl
  · exact Nat.le_add_left _ _

theorem recordIf_debt {then_ : PublisherPc P} (hresumes : then_.resumes = true) (s : Core P)
    (accesses : List Access) : (recordIf s accesses then_).debt = 0 := by
  unfold recordIf
  split
  · rfl
  · cases then_ <;> first | rfl | cases hresumes

theorem resumes_looks {l : PublisherPc P} (h : l.resumes = true) (hlooks : l.looks = true) :
    5 ≤ l.work := by
  cases l <;> first | exact le_rfl | exact absurd h Bool.false_ne_true | cases hlooks

theorem recordIf_looks {then_ : PublisherPc P} (h : then_.resumes = true) (s : Core P)
    (accesses : List Access) (hlooks : (recordIf s accesses then_).looks = true) :
    5 ≤ (recordIf s accesses then_).work := by
  by_cases henabled : s.metricsEnabled = true
  · rw [recordIf, if_pos henabled] at hlooks
    cases hlooks
  · rw [recordIf, if_neg henabled] at hlooks ⊢
    exact resumes_looks h hlooks

/-! ### What the record functions cost -/

theorem source_steady (m : Metrics) (timestampNs monotonicNs : UInt64) :
    Steady m (recordSourceWithoutSequence timestampNs monotonicNs) := by
  refine steady_of_not_raise fun a ha m' => fresh_of_not_retries ?_
  unfold recordSourceWithoutSequence setFirstMonotonic at ha
  split at ha <;> simp at ha <;> rcases ha with rfl | rfl | rfl <;> rfl

theorem success_steady (m : Metrics) (latencyNs : UInt64) :
    Steady m (recordPublishSuccess latencyNs) := by
  refine steady_of_not_raise fun a ha m' => ?_
  simp only [recordPublishSuccess, List.mem_cons, List.not_mem_nil, or_false] at ha
  rcases ha with rfl | rfl | rfl | rfl <;> trivial

theorem auxiliary_steady (m : Metrics) : Steady m recordAuxiliaryPublishSuccess :=
  steady_of_not_raise (by simp [recordAuxiliaryPublishSuccess, Access.Fresh])

theorem failure_steady (m : Metrics) : Steady m recordPublishFailure :=
  steady_of_not_raise (by simp [recordPublishFailure, Access.Fresh])

theorem success_work (latencyNs : UInt64) : accessWork (recordPublishSuccess latencyNs) = 5 := rfl

theorem auxiliary_work : accessWork recordAuxiliaryPublishSuccess = 1 := rfl

theorem failure_work : accessWork recordPublishFailure = 1 := rfl

/-! ### One step of the publisher -/

def PublisherAct.cost : PublisherAct → ℕ
  | .spurious => 0
  | _ => 1

theorem record_moves {a : PublisherAct} {accesses : List Access} {l' then_ : PublisherPc P}
    (hl : Recording s.metrics (.record accesses then_))
    (h : publishLoop t a s (.record accesses then_) = some (s', l')) :
    Recording s'.metrics l' ∧ l'.debt = 0 ∧
      l'.work + a.cost ≤ accessWork accesses + 1 + then_.work ∧
      (l'.looks = true → 5 ≤ l'.work) ∧ (∃ m, s' = { s with metrics := m }) := by
  obtain ⟨hsteady, hresumes, hwork⟩ := hl
  cases accesses with
  | nil =>
    cases a <;> cases h
    refine ⟨recording_resumes hresumes, ?_, ?_, resumes_looks hresumes, s.metrics, rfl⟩
    · cases l' <;> first | rfl | cases hresumes
    · simp only [PublisherAct.cost, accessWork, List.map_nil, List.sum_nil]
      omega
  | cons access accesses =>
    have hpaid := fun spurious => exec_work spurious (hsteady.fresh access List.mem_cons_self)
    have hsplit : ∀ as, accessWork (as ++ accesses) = accessWork as + accessWork accesses := by
      simp [accessWork]
    have hcons : accessWork (access :: accesses) = access.work + accessWork accesses := by
      simp [accessWork]
    cases a with
    | step =>
      cases h
      have hone := hpaid false
      refine ⟨⟨hsteady.exec false, hresumes, ?_⟩, rfl, ?_, (fun h => by cases h), _, rfl⟩
      · simp only [hsplit, hcons, Bool.false_eq_true, if_false] at hone hwork ⊢
        omega
      · simp only [PublisherPc.work, PublisherAct.cost, hsplit, hcons, Bool.false_eq_true,
          if_false] at hone ⊢
        omega
    | spurious =>
      cases h
      have hone := hpaid true
      refine ⟨⟨hsteady.exec true, hresumes, ?_⟩, rfl, ?_, (fun h => by cases h), _, rfl⟩
      · simp only [hsplit, hcons, if_true] at hone hwork ⊢
        omega
      · simp only [PublisherPc.work, PublisherAct.cost, hsplit, hcons, if_true] at hone ⊢
        omega
    | returns => cases h
    | throws => cases h

def waiting (s : Core P) : ℕ := s.admitted.length - s.taken

/-- The publisher polls: it looks for a sample in an empty ring and is not asked to stop. -/
def polls (s : Core P) (l : PublisherPc P) : Bool :=
  !s.publisherStop && waiting s == 0 && l.looks

def publisherDue (s : Core P) (l : PublisherPc P) : ℕ :=
  sampleWork * waiting s + l.work + (if 0 < waiting s then l.debt else 0)

/-- A publisher that polls may do so for ever, and still has one look before it. -/
def publisherWork (s : Core P) (l : PublisherPc P) : ℕ := if polls s l then 5 else publisherDue s l

theorem polls_iff {l : PublisherPc P} :
    polls s l = true ↔ s.publisherStop = false ∧ waiting s = 0 ∧ l.looks = true := by
  simp only [polls, Bool.and_eq_true, Bool.not_eq_true', beq_iff_eq, and_assoc]

theorem looks_work {l : PublisherPc P} (h : l.looks = true) : l.work ≤ 5 ∧ l.work + l.debt ≤ 7 := by
  cases l <;> first | exact absurd h Bool.false_ne_true | simp [PublisherPc.work, PublisherPc.debt]

theorem publisherDue_le (s : Core P) (l : PublisherPc P) : publisherDue s l ≤ publisherWork s l := by
  unfold publisherWork
  split
  · obtain ⟨-, hempty, hlooks⟩ := polls_iff.mp ‹_›
    have hwork := (looks_work hlooks).1
    simp only [publisherDue, hempty, Nat.lt_irrefl, if_false]
    omega
  · exact le_rfl

structure PublisherMoves (a : PublisherAct) (s : Core P) (l : PublisherPc P) (s' : Core P)
    (l' : PublisherPc P) : Prop where
  recording : Recording s'.metrics l'
  stop : s'.publisherStop = s.publisherStop
  polling : polls s l = true → waiting s' = 0 ∧ l'.work ≤ 5
  paid : polls s l = false → publisherDue s' l' + a.cost ≤ publisherDue s l
  -- it comes back to an empty ring at the head of the loop
  resumed : polls s l = false → polls s' l' = true → 5 ≤ l'.work

theorem PublisherAct.cost_le (a : PublisherAct) : a.cost ≤ 1 := by
  cases a <;> simp [PublisherAct.cost]

theorem PublisherMoves.of_look {a : PublisherAct} {l l' : PublisherPc P}
    (hlooks : l.looks = true) (hrecording : Recording s'.metrics l')
    (hstop : s'.publisherStop = s.publisherStop) (hwaiting : waiting s' = waiting s)
    (hwork : l'.work ≤ 5)
    (hpaid : polls s l = false → publisherDue s' l' + 1 ≤ publisherDue s l) :
    PublisherMoves a s l s' l' where
  recording := hrecording
  stop := hstop
  polling h := ⟨hwaiting.trans (polls_iff.mp h).2.1, hwork⟩
  paid h := (Nat.add_le_add_left a.cost_le _).trans (hpaid h)
  resumed h h' := by
    obtain ⟨hgoes, hempty, -⟩ := polls_iff.mp h'
    have hbefore := polls_iff.mpr ⟨hstop.symm.trans hgoes, hwaiting.symm.trans hempty, hlooks⟩
    exact absurd (h.symm.trans hbefore) (by decide)

theorem PublisherMoves.of_work {a : PublisherAct} {l l' : PublisherPc P}
    (hlooks : l.looks = false) (hrecording : Recording s'.metrics l')
    (hstop : s'.publisherStop = s.publisherStop)
    (hwaiting : waiting s' = waiting s) (hdebt : l'.debt = 0) (hwork : l'.work + 1 ≤ l.work)
    (hresumed : l'.looks = true → 5 ≤ l'.work) : PublisherMoves a s l s' l' where
  recording := hrecording
  stop := hstop
  polling h := absurd (polls_iff.mp h).2.2 (by simp [hlooks])
  paid _ := by
    have hcost := a.cost_le
    simp only [publisherDue, hwaiting, hdebt, ite_self]
    omega
  resumed _ h := hresumed (polls_iff.mp h).2.2

theorem publisher_moves {a : PublisherAct} {l l' : PublisherPc P} (hr : RingOk s)
    (hp : PublisherOk s l) (hl : Recording s.metrics l)
    (h : publishLoop t a s l = some (s', l')) : PublisherMoves a s l s' l' := by
  have hempty := hr.empty_iff capacity_lt
  have hle := hr.taken_le
  by_cases hrecord : ∃ accesses then_, l = .record accesses then_
  · obtain ⟨accesses, then_, rfl⟩ := hrecord
    obtain ⟨hrecording, hdebt, hwork, hlooks, m, rfl⟩ := record_moves hl h
    refine ⟨hrecording, rfl, fun hpolls => ?_, fun _ => ?_, fun _ hpolls => ?_⟩
    · exact absurd (polls_iff.mp hpolls).2.2 (by simp [PublisherPc.looks])
    · rw [publisherDue, publisherDue, hdebt, ite_self]
      simp only [PublisherPc.work, waiting]
      omega
    · exact hlooks (polls_iff.mp hpolls).2.2
  · cases publishLoop_step h with
    | recorded | access => exact absurd ⟨_, _, rfl⟩ hrecord
    | empty read heq =>
      obtain ⟨rfl, -⟩ := hp
      have hnone : waiting s = 0 := by unfold waiting; have := hempty.mp heq; omega
      refine .of_look rfl trivial rfl rfl (by simp [PublisherPc.work]) fun _ => ?_
      simp [publisherDue, hnone, PublisherPc.work]
    | storeRead read pending =>
      obtain ⟨-, hfront, -⟩ := hp
      obtain ⟨hlt, -⟩ := List.getElem?_eq_some_iff.mp hfront
      have hsource := recordSourceWithoutSequence_work pending.sample.sampleTimestampNs
        pending.arrivalNs
      have hsink : (PublisherPc.callSink pending).work = 17 := rfl
      refine ⟨recording_recordIf (source_steady _ _ _) rfl (by rw [hsink, sampleWork]; omega), rfl,
        fun hpolls => ?_, fun _ => ?_, fun _ hpolls => ?_⟩
      · exact absurd (polls_iff.mp hpolls).2.2 (by simp [PublisherPc.looks])
      · -- one sample less is in the ring: it pays for its way to the sink
        have hcost := a.cost_le
        have hdue := recordIf_work s (recordSourceWithoutSequence pending.sample.sampleTimestampNs
          pending.arrivalNs) (.callSink pending)
        have hone : s.admitted.length - s.taken = s.admitted.length - (s.taken + 1) + 1 := by omega
        rw [publisherDue, recordIf_debt rfl, ite_self]
        simp only [publisherDue, waiting, PublisherPc.work, PublisherPc.debt, sampleWork] at *
        omega
      · exact recordIf_looks rfl _ _ (polls_iff.mp hpolls).2.2
    | stopping read hstop =>
      refine .of_look rfl trivial rfl rfl (by simp [PublisherPc.work]) fun _ => ?_
      simp only [publisherDue, PublisherPc.work, PublisherPc.debt]
      omega
    | again read hstop =>
      refine .of_look rfl trivial rfl rfl le_rfl fun hpolls => ?_
      -- a sample has come meanwhile
      have hsome : 0 < waiting s := by
        by_contra hnone
        have := polls_iff.mpr ⟨hstop, Nat.eq_zero_of_not_pos hnone,
          (rfl : (PublisherPc.loadStop (P := P) read).looks = true)⟩
        exact absurd (hpolls.symm.trans this) (by decide)
      simp only [publisherDue, PublisherPc.work, PublisherPc.debt, if_pos hsome]
      omega
    | refilled read hne =>
      obtain ⟨rfl, -⟩ := hp
      refine .of_look rfl trivial rfl rfl le_rfl fun _ => ?_
      have hsome : 0 < waiting s := by
        unfold waiting
        have := mt hempty.mpr hne
        omega
      simp only [publisherDue, PublisherPc.work, PublisherPc.debt, if_pos hsome]
      omega
    | drained read heq =>
      refine .of_look rfl trivial rfl rfl (Nat.zero_le _) fun _ => ?_
      have hnone : (PublisherPc.finished : PublisherPc P).debt = 0 := rfl
      rw [publisherDue, publisherDue, hnone, ite_self]
      simp only [waiting, PublisherPc.work]
      omega
    | failed | healthy | loadRead | nonempty =>
      refine .of_look rfl trivial rfl rfl (by simp [PublisherPc.work]) fun _ => ?_
      simp [publisherDue, PublisherPc.work, PublisherPc.debt]
    | publishImu latencyNs =>
      have hdue := recordIf_work s (recordPublishSuccess latencyNs) .publishTemperature
      rw [success_work] at hdue
      exact .of_work rfl (recording_recordIf (success_steady _ _) rfl
        (by simp [success_work, PublisherPc.work, sampleWork])) rfl rfl
        (recordIf_debt rfl _ _) (Nat.succ_le_succ hdue) (recordIf_looks rfl _ _)
    | publishTemperature =>
      have hdue := recordIf_work s recordAuxiliaryPublishSuccess .loadFailed
      exact .of_work rfl (recording_recordIf (auxiliary_steady _) rfl
        (by simp [auxiliary_work, PublisherPc.work, sampleWork])) rfl rfl
        (recordIf_debt rfl _ _) (Nat.succ_le_succ hdue) (recordIf_looks rfl _ _)
    | throwPublish | throwTemperature =>
      have hdue := recordIf_work s recordPublishFailure .closeAdmission
      rw [failure_work] at hdue
      refine .of_work rfl (recording_recordIf (failure_steady _) rfl
        (by simp [failure_work, PublisherPc.work, sampleWork])) rfl rfl
        (recordIf_debt rfl _ _) ((Nat.succ_le_succ hdue).trans ?_) (recordIf_looks rfl _ _)
      simp [PublisherPc.work]
    | _ =>
      exact .of_work rfl trivial rfl rfl rfl (by simp [PublisherPc.work])
        (by simp [PublisherPc.looks, PublisherPc.work])

def publisherCost (s : Core P) (l : PublisherPc P) (a : PublisherAct) : ℕ :=
  if polls s l then 0 else a.cost

theorem publisherWork_moves {a : PublisherAct} {l l' : PublisherPc P}
    (h : PublisherMoves a s l s' l') :
    publisherWork s' l' + publisherCost s l a ≤ publisherWork s l := by
  cases hpolls : polls s l with
  | true =>
    obtain ⟨hempty, hwork⟩ := h.polling hpolls
    simp only [publisherWork, publisherCost, hpolls, if_true, Nat.add_zero]
    split
    · exact le_rfl
    · simpa only [publisherDue, hempty, Nat.mul_zero, Nat.zero_add, Nat.lt_irrefl, if_false,
        Nat.add_zero] using hwork
  | false =>
    have hpaid := h.paid hpolls
    simp only [publisherWork, publisherCost, hpolls, Bool.false_eq_true, if_false]
    split
    · have hback := h.resumed hpolls ‹_›
      simp only [publisherDue] at hpaid ⊢
      omega
    · exact hpaid

/-! ### The callback -/

def ProducerPc.work : ProducerPc P → ℕ
  | .idle => 0
  | .storeFailed => 1
  | .closeAdmission => 2
  -- a sample more for the publisher, which may have seen the ring empty
  | .storeWrite .. => 27
  | .fillSlot .. => 28
  | .loadRead .. => 29
  | .loadWrite _ => 30
  | .loadAdmission .. => 31
  | .addSourceCount .. => 32
  | .storeSourceFirst .. => 33
  | .loadSourceCount .. => 34

def ProducerAct.cost : ProducerAct P → ℕ
  | .callback .. => 0
  | .step => 1

def ProducerAct.gain : ProducerAct P → ℕ
  | .callback .. => 34
  | .step => 0

theorem publisherWork_admitted (s : Core P) (p : PublisherPc P) (h : waiting s' = waiting s + 1) :
    publisherWork s' p ≤ publisherWork s p + 26 := by
  have hpolls : polls s' p = false := by simp [polls, h]
  have hafter : publisherWork s' p = sampleWork * (waiting s + 1) + p.work + p.debt := by
    rw [publisherWork, hpolls, publisherDue, h, if_pos (Nat.succ_pos _)]
    rfl
  rw [hafter]
  unfold publisherWork sampleWork
  split
  · obtain ⟨-, hnone, hlooks⟩ := polls_iff.mp ‹_›
    have hlook := (looks_work hlooks).2
    rw [hnone]
    omega
  · have hdebt : p.debt ≤ 5 := by cases p <;> simp [PublisherPc.debt]
    simp only [publisherDue, sampleWork]
    omega

theorem producer_paid {a : ProducerAct P} {l l' : ProducerPc P} (p : PublisherPc P)
    (hr : RingOk s) (h : sampleTrampoline a s l = some (s', l')) :
    publisherWork s' p + l'.work + a.cost ≤ publisherWork s p + l.work + a.gain := by
  cases sampleTrampoline_step h with
  | storeWrite pending write =>
    have hone : (s.admitted ++ [pending]).length - s.taken = waiting s + 1 := by
      have := hr.taken_le
      rw [List.length_append, List.length_singleton, waiting]
      omega
    refine (Nat.add_le_add_right (Nat.add_le_add_right (publisherWork_admitted s p ?_) _) _).trans ?_
    · exact hone
    · simp only [ProducerPc.work, ProducerAct.cost, ProducerAct.gain]
      omega
  | _ =>
    -- nothing that the publisher pays with is changed
    refine (Nat.add_assoc _ _ _).trans_le ((Nat.add_le_add_left ?_ _).trans
      (Nat.add_assoc _ _ _).symm.le)
    simp [ProducerPc.work, ProducerAct.cost, ProducerAct.gain]

/-! ### The callers -/

def OwnerOp.work : OwnerOp → ℕ
  | .startGuard .. => 21
  | .create _ => 20
  | .setCallback => 19
  | .spawnPublisher => 17
  | .driverStart => 16
  | .driverStartReturn => 15
  | .stopGuard => 14
  | .driverStopReturn _ => 12
  | .exchangeNotified => 2
  | _ => 1

def opsWork (ops : List OwnerOp) : ℕ := (ops.map OwnerOp.work).sum

@[simp] theorem opsWork_nil : opsWork [] = 0 := rfl

@[simp] theorem opsWork_cons (op : OwnerOp) (ops : List OwnerOp) :
    opsWork (op :: ops) = op.work + opsWork ops := by simp [opsWork]

theorem abandonStart_work : opsWork abandonStart = 7 := by
  simp [abandonStart, recordFailure, OwnerOp.work]

theorem afterStop_work (site : StopSite) (status : Status) :
    opsWork (afterStop site status) ≤ 11 := by
  by_cases hok : status = statusOk <;> cases site <;>
    simp [afterStop, startFailureTail, stopTail, finishPublisher, recordFailure, OwnerOp.work, hok]

theorem exec_paid {op : OwnerOp} {rest ops : List OwnerOp} {r : Reply} (p : PublisherPc P)
    (h : op.exec s rest r = some (s', ops)) :
    publisherWork s' p + opsWork ops + 1 ≤ publisherWork s p + opsWork (op :: rest) := by
  cases exec_step h with
  | storePublisherStop =>
    -- a publisher that polled has one look left
    have hset : publisherWork { s with publisherStop := true } p = publisherDue s p := rfl
    have hdue := publisherDue_le s p
    simp only [opsWork_cons, OwnerOp.work]
    omega
  | driverStopped site =>
    have htail := afterStop_work site statusOk
    refine (Nat.add_assoc _ _ _).trans_le (Nat.add_le_add_left ?_ _)
    simp only [opsWork_cons, OwnerOp.work]
    omega
  | driverStopFailed site code =>
    have htail := afterStop_work site code
    refine (Nat.add_assoc _ _ _).trans_le (Nat.add_le_add_left ?_ _)
    simp only [opsWork_cons, OwnerOp.work]
    omega
  | stopIdle =>
    have htail := afterStop_work .stop statusOk
    refine (Nat.add_assoc _ _ _).trans_le (Nat.add_le_add_left ?_ _)
    simp only [opsWork_cons, OwnerOp.work, afterStop] at htail ⊢
    omega
  | callbackRefused | notSpawned =>
    refine (Nat.add_assoc _ _ _).trans_le (Nat.add_le_add_left ?_ _)
    simp only [opsWork_cons, OwnerOp.work, abandonStart_work]
    omega
  | _ =>
    refine (Nat.add_assoc _ _ _).trans_le (Nat.add_le_add_left ?_ _)
    simp [OwnerOp.work, recordFailure] <;> omega

def OwnerAct.cost : OwnerAct → ℕ
  | .reply _ => 1
  | _ => 0

def OwnerAct.gain : OwnerAct → ℕ
  | .start .. => 21
  | .stop => 14
  | .destruct => 14
  | .reply _ => 0

theorem owner_paid {a : OwnerAct} {l l' : OwnerLocal} (p : PublisherPc P)
    (h : ownerStep a s l = some (s', l')) :
    publisherWork s' p + opsWork l'.ops + a.cost ≤
      publisherWork s p + opsWork l.ops + a.gain := by
  unfold ownerStep at h
  split at h
  · cases h
    simp [OwnerOp.work, OwnerAct.cost, OwnerAct.gain]
  · cases h
    simp [OwnerOp.work, OwnerAct.cost, OwnerAct.gain]
  · cases h
    simp [OwnerOp.work, OwnerAct.cost, OwnerAct.gain]
  · obtain ⟨⟨t, ops⟩, he, hx⟩ := Option.map_eq_some_iff.mp h
    cases hx
    exact exec_paid p he
  · cases h

/-! ### All the threads -/

/-- Everything but a new call, a new callback, a compare-exchange that failed for no reason, and
the looks of a publisher at an empty ring that is not asked to stop. -/
def cost (s : State P) : (Σ i, Act P i) → ℕ
  | ⟨.owner, a⟩ => OwnerAct.cost a
  | ⟨.producer, a⟩ => ProducerAct.cost a
  | ⟨.publisher, a⟩ => publisherCost s.shared (s.locals .publisher) a

def gain : (Σ i, Act P i) → ℕ
  | ⟨.owner, a⟩ => OwnerAct.gain a
  | ⟨.producer, a⟩ => ProducerAct.gain a
  | ⟨.publisher, _⟩ => 0

def left (s : State P) : ℕ :=
  publisherWork s.shared (s.locals .publisher) +
    (ProducerPc.work (s.locals .producer) + opsWork (s.locals .owner : OwnerLocal).ops)

theorem exec_metrics {op : OwnerOp} {rest ops : List OwnerOp} {r : Reply}
    (h : op.exec s rest r = some (s', ops)) : s'.metrics = s.metrics := by
  cases exec_step h <;> rfl

theorem ownerStep_metrics {a : OwnerAct} {l l' : OwnerLocal}
    (h : ownerStep a s l = some (s', l')) : s'.metrics = s.metrics := by
  obtain ⟨rfl, -⟩ | ⟨op, ops, r, -, he, -⟩ := ownerStep_cases h
  · rfl
  · exact exec_metrics he

theorem sampleTrampoline_metrics {a : ProducerAct P} {l l' : ProducerPc P}
    (h : sampleTrampoline a s l = some (s', l')) : s'.metrics = s.metrics := by
  cases sampleTrampoline_step h <;> rfl

section Reached
variable [Inhabited P] {s u : State P}

theorem reachable_recording (h : (threads P t).Reachable s) :
    Recording s.shared.metrics (s.locals .publisher) := by
  refine Threads.Reachable.focus (T := threads P t) (i := .publisher)
    (J := fun s l => Recording s.metrics l) trivial ?_ ?_ h
  · intro s a s' l' hs hJ hst
    obtain ⟨hring, -, hpub⟩ := reachable_dispatch hs
    exact (publisher_moves hring hpub hJ (threads_publisher hst).2).recording
  · intro s j a s' l' hj hs hJ hst
    cases j with
    | publisher => exact absurd rfl hj
    | producer => exact sampleTrampoline_metrics hst ▸ hJ
    | owner => exact ownerStep_metrics hst ▸ hJ

theorem step_paid {e : Σ i, Act P i} (hs : (threads P t).Reachable s)
    (h : (threads P t).next e s = some u) : left u + cost s e ≤ left s + gain e := by
  obtain ⟨i, a⟩ := e
  obtain ⟨s', l', hst, rfl⟩ := Threads.next_eq_some h
  obtain ⟨hring, -, hpub⟩ := reachable_dispatch hs
  have hrecording := reachable_recording hs
  cases i with
  | owner =>
    have hpaid := owner_paid (s.locals .publisher) hst
    show publisherWork s' (s.locals .publisher) +
      (ProducerPc.work (s.locals .producer) + opsWork (l' : OwnerLocal).ops) + OwnerAct.cost a ≤
        left s + OwnerAct.gain a
    unfold left
    omega
  | producer =>
    have hpaid := producer_paid (s.locals .publisher) hring hst
    show publisherWork s' (s.locals .publisher) +
      (ProducerPc.work l' + opsWork (s.locals .owner : OwnerLocal).ops) + ProducerAct.cost a ≤
        left s + ProducerAct.gain a
    unfold left
    omega
  | publisher =>
    have hpaid := publisherWork_moves (publisher_moves hring hpub hrecording
      (threads_publisher hst).2)
    show publisherWork s' l' + (ProducerPc.work (s.locals .producer) +
      opsWork (s.locals .owner : OwnerLocal).ops) +
        publisherCost s.shared (s.locals .publisher) a ≤ left s + 0
    unfold left
    omega

end Reached

end RoboBaton.Imu
