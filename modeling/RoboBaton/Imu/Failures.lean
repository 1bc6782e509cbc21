import RoboBaton.Imu.Drain

/-! What becomes of a failure of the IMU core: what `Start` and `Stop` answer after it, and what
`failed_` and `stop_failed_` tell once nothing runs any more. -/

namespace RoboBaton.Imu
open Trace Discipline Transition
variable {P : Type} {s s' : Core P}

/-! ### The callback and the publisher -/

def ProducerPc.failing : ProducerPc P → Bool
  | .closeAdmission => true
  | .storeFailed => true
  | _ => false

def PublisherPc.failing : PublisherPc P → Bool
  | .closeAdmission => true
  | .storeFailed => true
  | .record _ then_ => then_.failing
  | _ => false

def PublisherPc.reporting : PublisherPc P → Bool
  | .closeAdmission => true
  | .storeFailed => true
  | .exchangeNotified => true
  | .callNotifier => true
  | .record _ then_ => then_.reporting
  | _ => false

structure ProducerBlames (s : Core P) (pc : ProducerPc P) : Prop where
  recorded : .malformedSample ∈ s.incidents ∨ .ringOverflow ∈ s.incidents →
    s.failed = true ∨ pc.failing = true
  blamed : pc.failing = true → s.incidents ≠ []

structure PublisherBlames (s : Core P) (pc : PublisherPc P) : Prop where
  recorded : .sinkException ∈ s.incidents → s.failed = true ∨ pc.failing = true
  blamed : pc.reporting = true → s.failed = true ∨ s.incidents ≠ []

structure Blaming (s s' : Core P) (mine : List Incident) : Prop where
  failed : s.failed = true → s'.failed = true
  stopFailed : s.stopFailed = true → s'.stopFailed = true
  notifications : s.notifications ≤ s'.notifications
  incidents : s.incidents <+: s'.incidents
  mine : ∀ i ∈ s'.incidents, i ∈ s.incidents ∨ i ∈ mine

theorem blaming_of_eq (mine : List Incident) (hfailed : s.failed = true → s'.failed = true)
    (hstop : s.stopFailed = true → s'.stopFailed = true)
    (hnotifications : s.notifications ≤ s'.notifications) (hincidents : s'.incidents = s.incidents) :
    Blaming s s' mine :=
  ⟨hfailed, hstop, hnotifications, hincidents ▸ List.prefix_refl _, fun _ hi => .inl (hincidents ▸ hi)⟩

theorem blaming_incident {i : Incident} {mine : List Incident} (hi : i ∈ mine)
    (hfailed : s'.failed = s.failed) (hstop : s'.stopFailed = s.stopFailed)
    (hnotifications : s'.notifications = s.notifications)
    (hincidents : s'.incidents = s.incidents ++ [i]) : Blaming s s' mine := by
  refine ⟨hfailed.trans, hstop.trans, hnotifications.ge, ⟨[i], hincidents.symm⟩, fun j hj => ?_⟩
  rw [hincidents] at hj
  rcases List.mem_append.mp hj with hj | hj
  · exact .inl hj
  · exact .inr (List.mem_singleton.mp hj ▸ hi)

theorem Blaming.ne_nil {mine : List Incident} (h : Blaming s s' mine) (hs : s.incidents ≠ []) :
    s'.incidents ≠ [] := by
  intro hnil
  exact hs (List.prefix_nil.mp (hnil ▸ h.incidents))

theorem producer_blaming {a : ProducerAct P} {l l' : ProducerPc P}
    (h : sampleTrampoline a s l = some (s', l')) :
    Blaming s s' [.malformedSample, .ringOverflow] := by
  cases sampleTrampoline_step h with
  | malformed | full => exact blaming_incident (by decide) rfl rfl rfl rfl
  | storeFailed => exact blaming_of_eq _ (fun _ => rfl) id le_rfl rfl
  | _ => exact blaming_of_eq _ id id le_rfl rfl

theorem publisher_blaming {t : Bool} {a : PublisherAct} {l l' : PublisherPc P}
    (h : publishLoop t a s l = some (s', l')) : Blaming s s' [.sinkException] := by
  cases publishLoop_step h with
  | noSink | throwStamp | throwPublish | throwTemperature =>
    exact blaming_incident (by decide) rfl rfl rfl rfl
  | storeFailed => exact blaming_of_eq _ (fun _ => rfl) id le_rfl rfl
  | callNotifier => exact blaming_of_eq _ id id (Nat.le_succ _) rfl
  | _ => exact blaming_of_eq _ id id le_rfl rfl

theorem producer_blames {a : ProducerAct P} {l l' : ProducerPc P} (hl : ProducerBlames s l)
    (h : sampleTrampoline a s l = some (s', l')) : ProducerBlames s' l' := by
  obtain ⟨hrecorded, hblamed⟩ := hl
  cases sampleTrampoline_step h with
  | malformed | full => exact ⟨fun _ => .inr rfl, fun _ => List.append_ne_nil_of_right_ne_nil _ (by simp)⟩
  | closeAdmission => exact ⟨fun _ => .inr rfl, fun _ => hblamed rfl⟩
  | storeFailed => exact ⟨fun _ => .inl rfl, fun hf => by cases hf⟩
  | _ => exact ⟨hrecorded, hblamed⟩

theorem publisherBlames_recordIf (s t : Core P) (accesses : List Metrics.Access)
    (then_ : PublisherPc P) :
    PublisherBlames s (recordIf t accesses then_) ↔ PublisherBlames s then_ := by
  unfold recordIf
  split
  · exact ⟨fun h => ⟨h.recorded, h.blamed⟩, fun h => ⟨h.recorded, h.blamed⟩⟩
  · exact Iff.rfl

theorem publisher_blames {t : Bool} {a : PublisherAct} {l l' : PublisherPc P}
    (hl : PublisherBlames s l) (h : publishLoop t a s l = some (s', l')) :
    PublisherBlames s' l' := by
  obtain ⟨hrecorded, hblamed⟩ := hl
  have hne : ∀ i, s.incidents ++ [i] ≠ [] := fun i =>
    List.append_ne_nil_of_right_ne_nil _ (List.cons_ne_nil _ _)
  cases publishLoop_step h with
  | failed hfailed => exact ⟨fun _ => .inl hfailed, fun _ => .inl hfailed⟩
  | noSink | throwStamp => exact ⟨fun _ => .inr rfl, fun _ => .inr (hne _)⟩
  | throwPublish | throwTemperature =>
    rw [publisherBlames_recordIf]
    exact ⟨fun _ => .inr rfl, fun _ => .inr (hne _)⟩
  | storeFailed => exact ⟨fun _ => .inl rfl, fun _ => .inl rfl⟩
  | storeRead | publishImu | publishTemperature =>
    rw [publisherBlames_recordIf]
    exact ⟨hrecorded, hblamed⟩
  | leave | callNotifier => exact ⟨hrecorded, fun hr => by cases hr⟩
  | _ => exact ⟨hrecorded, hblamed⟩

theorem ProducerBlames.congr {mine : List Incident} {pc : ProducerPc P} (h : ProducerBlames s pc)
    (hs : Blaming s s' mine) (hmine : .malformedSample ∉ mine ∧ .ringOverflow ∉ mine) :
    ProducerBlames s' pc where
  recorded hmem := by
    refine (h.recorded (hmem.imp (fun hm => ?_) fun hm => ?_)).imp_left hs.failed
    · exact (hs.mine _ hm).resolve_right hmine.1
    · exact (hs.mine _ hm).resolve_right hmine.2
  blamed hf := hs.ne_nil (h.blamed hf)

theorem PublisherBlames.congr {mine : List Incident} {pc : PublisherPc P} (h : PublisherBlames s pc)
    (hs : Blaming s s' mine) (hmine : .sinkException ∉ mine) : PublisherBlames s' pc where
  recorded hmem := (h.recorded ((hs.mine _ hmem).resolve_right hmine)).imp_left hs.failed
  blamed hf := (h.blamed hf).imp hs.failed hs.ne_nil

/-! ### Start and Stop -/

def failing : List OwnerOp → Bool
  | [] => false
  | .startGuard .. :: _ => false
  | .create _ :: _ => false
  | .setCallback :: _ => false
  | .spawnPublisher :: _ => false
  | .driverStart :: _ => false
  | .driverStartReturn :: _ => false
  | .stopGuard :: _ => false
  | .driverStopReturn site :: _ => site == .startFailure
  | .returnStart result :: _ => !result
  | .returnStop _ :: _ => false
  | _ :: ops => failing ops

def OwnerOp.records : OwnerOp → Bool
  | .storeFailed => true
  | .exchangeNotified => true
  | .callNotifier => true
  | .storeStopFailed => true
  | _ => false

def Charged (s : Core P) : Prop := s.failed = true ∨ s.stopFailed = true ∨ 0 < s.notifications

theorem Blaming.charged {mine : List Incident} (h : Blaming s s' mine) (hc : Charged s) :
    Charged s' :=
  hc.imp h.failed fun hc => hc.imp h.stopFailed fun hnotified => hnotified.trans_le h.notifications

def Accused (s : Core P) (ops : List OwnerOp) : Prop :=
  s.incidents ≠ [] ∨ .returnStart true ∉ s.events ∧ (failing ops = true ∨ Returned s.events)

structure OwnerBlames (s : Core P) (ops : List OwnerOp) : Prop where
  recorded : .stopFailed ∈ s.incidents → s.stopFailed = true ∨ ops.head? = some .storeStopFailed
  blamed : Charged s ∨ (∃ op ∈ ops, op.records = true) → Accused s ops
  unstarted : .driverStopReturn .startFailure ∈ ops → .returnStart true ∉ s.events

structure Silent (s s' : Core P) : Prop where
  starts : .returnStart true ∈ s'.events → .returnStart true ∈ s.events
  returned : Returned s.events → Returned s'.events
  incidents : s'.incidents = s.incidents
  charged : Charged s' → Charged s
  stopFailed : s.stopFailed = true → s'.stopFailed = true

theorem silent_of_eq (hevents : s'.events = s.events) (hincidents : s'.incidents = s.incidents)
    (hfailed : s'.failed = s.failed) (hstopFailed : s'.stopFailed = s.stopFailed)
    (hnotifications : s'.notifications = s.notifications) : Silent s s' := by
  constructor
  case charged => simp [Charged, hfailed, hstopFailed, hnotifications]
  case incidents => exact hincidents
  all_goals simp [hevents, hstopFailed]

theorem silent_emit (s : Core P) {e : Event} (he : e ≠ .returnStart true) : Silent s (s.emit e) := by
  refine ⟨fun hmem => ?_, fun hret => ?_, rfl, id, id⟩
  · exact (List.mem_append.mp hmem).resolve_right (by simp [he.symm])
  · exact (returned_append _ _).mpr (.inl hret)

theorem Silent.trans {s'' : Core P} (h : Silent s s') (h' : Silent s' s'') : Silent s s'' where
  starts := h.starts ∘ h'.starts
  returned := h'.returned ∘ h.returned
  incidents := h'.incidents.trans h.incidents
  charged := h.charged ∘ h'.charged
  stopFailed := h'.stopFailed ∘ h.stopFailed

namespace OwnerBlames
variable {op : OwnerOp} {rest ops : List OwnerOp}

theorem recorded_tail (hb : OwnerBlames s (op :: rest)) (hop : op ≠ .storeStopFailed)
    (hmem : .stopFailed ∈ s.incidents) : s.stopFailed = true :=
  (hb.recorded hmem).resolve_right (by simp [hop])

theorem tail (hb : OwnerBlames s (op :: rest)) (hop : op ≠ .storeStopFailed) (hs : Silent s s')
    (hfailing : failing (op :: rest) = failing rest) : OwnerBlames s' rest where
  recorded hmem := .inl (hs.stopFailed (hb.recorded_tail hop (hs.incidents ▸ hmem)))
  blamed hc := by
    have hcharged : Charged s ∨ ∃ o ∈ op :: rest, o.records = true :=
      hc.imp hs.charged fun ⟨o, ho, hrecords⟩ => ⟨o, List.mem_cons_of_mem _ ho, hrecords⟩
    refine (hb.blamed hcharged).imp (fun hne => hs.incidents ▸ hne) fun ⟨hnone, hret⟩ => ?_
    exact ⟨fun hmem => hnone (hs.starts hmem), hret.imp (hfailing ▸ ·) hs.returned⟩
  unstarted hmem := fun hstart =>
    hb.unstarted (List.mem_cons_of_mem _ hmem) (hs.starts hstart)

theorem charge (hb : OwnerBlames s (op :: rest)) (hop : op.records = true)
    (hevents : s'.events = s.events) (hincidents : s'.incidents = s.incidents)
    (hstop : s.stopFailed = true ∨ op = .storeStopFailed → s'.stopFailed = true)
    (hfailing : failing (op :: rest) = failing ops)
    (hops : ops = rest ∨ ops = .callNotifier :: rest) : OwnerBlames s' ops where
  recorded hmem := by
    rw [hincidents] at hmem
    refine .inl (hstop ((hb.recorded hmem).imp_right fun hhead => ?_))
    exact Option.some.inj hhead
  blamed _ := by
    have haccused := hb.blamed (.inr ⟨op, List.mem_cons_self, hop⟩)
    rwa [Accused, hfailing, ← hevents, ← hincidents] at haccused
  unstarted hmem := by
    rw [hevents]
    refine hb.unstarted (List.mem_cons_of_mem _ ?_)
    rcases hops with rfl | rfl
    · exact hmem
    · simpa using hmem

theorem goto (hb : OwnerBlames s (op :: rest)) (hop : op ≠ .storeStopFailed) (hs : Silent s s')
    (hfailing : failing (op :: rest) = false) (hrecords : ∀ o ∈ ops, o.records = false)
    (hunstarted : .driverStopReturn .startFailure ∈ ops → .returnStart true ∉ s.events) :
    OwnerBlames s' ops where
  recorded hmem := .inl (hs.stopFailed (hb.recorded_tail hop (hs.incidents ▸ hmem)))
  blamed hc := by
    have hcharged : Charged s := by
      refine hs.charged (hc.resolve_right fun ⟨o, ho, hr⟩ => ?_)
      exact absurd (hrecords o ho) (by simp [hr])
    refine (hb.blamed (.inl hcharged)).imp (fun hne => hs.incidents ▸ hne) fun ⟨hnone, hret⟩ => ?_
    refine ⟨fun hmem => hnone (hs.starts hmem), .inr (hs.returned (hret.resolve_left ?_))⟩
    simp [hfailing]
  unstarted hmem := fun hstart => hunstarted hmem (hs.starts hstart)

theorem call (hb : OwnerBlames s []) (hrecords : op.records = false)
    (hop : op ≠ .driverStopReturn .startFailure) : OwnerBlames s [op] where
  recorded hmem := (hb.recorded hmem).imp_right fun hhead => by cases hhead
  blamed hc := by
    have hcharged : Charged s := hc.resolve_right (by simp [hrecords])
    refine (hb.blamed (.inl hcharged)).imp_right fun hnone => ⟨hnone.1, .inr ?_⟩
    exact hnone.2.resolve_left (by simp [failing])
  unstarted hmem := absurd (List.mem_singleton.mp hmem) hop.symm

theorem fail (hb : OwnerBlames s (op :: rest)) (hop : op ≠ .storeStopFailed) (hs : Silent s s')
    (hnone : .returnStart true ∉ s.events) (hfailing : failing ops = true) : OwnerBlames s' ops where
  recorded hmem := .inl (hs.stopFailed (hb.recorded_tail hop (hs.incidents ▸ hmem)))
  blamed _ := .inr ⟨fun hmem => hnone (hs.starts hmem), .inl hfailing⟩
  unstarted _ := fun hmem => hnone (hs.starts hmem)

end OwnerBlames

section Exec
variable {op : OwnerOp} {rest ops : List OwnerOp} {r : Reply}

theorem exec_blaming (h : op.exec s rest r = some (s', ops)) : Blaming s s' [.stopFailed] := by
  cases exec_step h with
  | driverStopFailed => exact blaming_incident (by simp) rfl rfl rfl rfl
  | storeFailed => exact blaming_of_eq _ (fun _ => rfl) id le_rfl rfl
  | storeStopFailed => exact blaming_of_eq _ id (fun _ => rfl) le_rfl rfl
  | callNotifier => exact blaming_of_eq _ id id (Nat.le_succ _) rfl
  | _ => exact blaming_of_eq _ id id le_rfl rfl

theorem failing_afterStop (site : StopSite) (status : Status) :
    failing (afterStop site status) = (site == .startFailure) := by
  by_cases h : status = statusOk <;> cases site <;>
    simp [afterStop, startFailureTail, stopTail, finishPublisher, recordFailure, failing, h]

theorem stopTail_quiet : ∀ o ∈ stopTail statusOk, o.records = false := by decide

theorem driverStopped_blames {site : StopSite}
    (hb : OwnerBlames s (.driverStopReturn site :: rest)) :
    OwnerBlames { s.emit (.stopReturned statusOk) with driver := { s.driver with stoppedOk := true } }
      (afterStop site statusOk) := by
  have hs : Silent s { s.emit (.stopReturned statusOk) with
      driver := { s.driver with stoppedOk := true } } :=
    (silent_emit s (by simp)).trans (silent_of_eq rfl rfl rfl rfl rfl)
  cases site with
  | startFailure =>
    exact hb.fail (by simp) hs (hb.unstarted List.mem_cons_self) (failing_afterStop _ _)
  | stop =>
    exact hb.goto (by simp) hs rfl stopTail_quiet
      (by simp [afterStop, stopTail, finishPublisher])

theorem driverStopFailed_blames {site : StopSite} {code : Status} (hcode : code ≠ statusOk)
    (hb : OwnerBlames s (.driverStopReturn site :: rest)) :
    OwnerBlames ((s.emit (.stopReturned code)).incident .stopFailed) (afterStop site code) where
  recorded _ := .inr (by cases site <;> simp [afterStop, startFailureTail, stopTail, hcode])
  blamed _ := .inl (List.append_ne_nil_of_right_ne_nil _ (by simp))
  unstarted := by
    cases site <;> simp [afterStop, startFailureTail, stopTail, finishPublisher, recordFailure]

theorem returnStart_blames {result : Bool} (hS : rules.Safe (Holds s) (.returnStart result :: rest))
    (hb : OwnerBlames s (.returnStart result :: rest)) :
    OwnerBlames (s.emit (.returnStart result)) [] where
  recorded hmem := .inl (hb.recorded_tail (by simp) hmem)
  blamed hc := by
    have haccused := hb.blamed (.inl (hc.resolve_right (by simp)))
    refine haccused.imp_right fun ⟨hnone, hret⟩ => ?_
    cases result with
    | false => exact ⟨by simpa [Core.emit] using hnone, .inr (by simp [Core.emit])⟩
    | true =>
      have hfirst : ¬ Returned s.events := hS.1 .first (by simp)
      exact absurd (hret.resolve_left (by simp [failing])) hfirst
  unstarted := by simp

theorem exec_blames (hS : rules.Safe (Holds s) (op :: rest)) (hb : OwnerBlames s (op :: rest))
    (h : op.exec s rest r = some (s', ops)) : OwnerBlames s' ops := by
  have hnone : .first ∈ (rules.contract op).needs → .returnStart true ∉ s.events :=
    fun hneeds hmem => hS.1 .first hneeds (.inl ⟨_, hmem⟩)
  have hemit : ∀ {e : Event} {t : Core P}, e ≠ .returnStart true → t.events = (s.emit e).events →
      t.incidents = s.incidents → t.failed = s.failed → t.stopFailed = s.stopFailed →
      t.notifications = s.notifications → Silent s t := fun he hevents hincidents hfailed hstop hn =>
    (silent_emit s he).trans (silent_of_eq hevents hincidents hfailed hstop hn)
  cases exec_step h with
  -- the branches of `Start`: it goes on, or it is going to return false
  | rejected | claim =>
    exact hb.goto (by simp) (silent_of_eq rfl rfl rfl rfl rfl) rfl (by simp [OwnerOp.records])
      (by simp)
  | callbackSet => exact hb.goto (by simp) (silent_emit s (by simp)) rfl (by decide) (by simp)
  | created | spawned | driverStart =>
    exact hb.goto (by simp) (hemit (by simp) rfl rfl rfl rfl rfl) rfl (by decide) (by simp)
  | started => exact hb.goto (by simp) (silent_of_eq rfl rfl rfl rfl rfl) rfl (by decide) (by simp)
  | notStarted =>
    exact hb.goto (by simp) (silent_of_eq rfl rfl rfl rfl rfl) rfl (by decide) fun _ => hnone (by simp)
  | noHandle | badStatus | callbackRefused | notSpawned =>
    exact hb.fail (by simp) (silent_emit s (by simp)) (hnone (by simp)) rfl
  | returnStart result => exact returnStart_blames hS hb
  -- the branches of `Stop`
  | stopped =>
    exact hb.goto (by simp) (silent_of_eq rfl rfl rfl rfl rfl) rfl (by simp [OwnerOp.records])
      (by simp)
  | stopDriver => exact hb.goto (by simp) (silent_of_eq rfl rfl rfl rfl rfl) rfl (by decide) (by simp)
  | stopIdle =>
    exact hb.goto (by simp) (silent_of_eq rfl rfl rfl rfl rfl) rfl stopTail_quiet
      (by simp [stopTail, finishPublisher])
  | driverStopped site => exact driverStopped_blames hb
  | driverStopFailed site code hcode => exact driverStopFailed_blames hcode hb
  | returnStop result => exact hb.goto (by simp) (silent_emit s (by simp)) rfl (by simp) (by simp)
  -- what puts a failure on record or reports it
  | storeStopFailed => exact hb.charge rfl rfl rfl (fun _ => rfl) rfl (.inl rfl)
  | storeFailed | callNotifier | silent =>
    exact hb.charge rfl rfl rfl (fun hstop => hstop.resolve_right (by simp)) rfl (.inl rfl)
  | notify =>
    exact hb.charge rfl rfl rfl (fun hstop => hstop.resolve_right (by simp)) rfl (.inr rfl)
  -- the rest goes on with the code that follows
  | joined | destroyHandle | clearSink | clearNotifier =>
    exact hb.tail (by simp) (hemit (by simp) rfl rfl rfl rfl rfl) rfl
  | notJoinable | noHandleLeft | storeAdmission | storePublisherStop | setTerminal =>
    exact hb.tail (by simp) (silent_of_eq rfl rfl rfl rfl rfl) rfl
  | destroyCandidate | driverStop => exact hb.tail (by simp) (silent_emit s (by simp)) rfl

end Exec

/-- What the driver and the publisher must have done for things to be as they are. -/
structure Causes (s : Core P) : Prop where
  callback : s.driver.inCallback = true → s.driver.startCalled = true
  stopReturned : StopReturned s.events → s.driver.stoppedOk = true ∨ .stopFailed ∈ s.incidents
  sinkException : .sinkException ∈ s.incidents → .spawnPublisher true ∈ s.events

theorem exec_causes {op : OwnerOp} {rest ops : List OwnerOp} {r : Reply}
    (hc : Causes s) (h : op.exec s rest r = some (s', ops)) : Causes s' := by
  obtain ⟨hcallback, hreturned, hsink⟩ := hc
  have hsink' : .sinkException ∈ s'.incidents → .spawnPublisher true ∈ s'.events := fun hmem =>
    (exec_events h).subset (hsink (((exec_blaming h).mine _ hmem).resolve_right (by simp)))
  cases exec_step h with
  | driverStart =>
    exact ⟨fun _ => rfl, fun hret => hreturned (by simpa [Core.emit] using hret), hsink'⟩
  | driverStopped => exact ⟨hcallback, fun _ => .inl rfl, hsink'⟩
  | driverStopFailed => exact ⟨hcallback, fun _ => .inr (by simp [Core.incident]), hsink'⟩
  | _ => exact ⟨hcallback, fun hret => hreturned (by simpa [Core.emit] using hret), hsink'⟩

theorem callback_startCalled {a : ProducerAct P} {l l' : ProducerPc P}
    (hc : s.driver.inCallback = true → s.driver.startCalled = true)
    (h : sampleTrampoline a s l = some (s', l')) :
    s'.driver.inCallback = true → s'.driver.startCalled = true := by
  cases sampleTrampoline_step h with
  | enterCounted sample nowNs hcalled | enter sample nowNs hcalled => exact fun _ => hcalled
  | refuse | storeWrite | storeFailed => exact fun hin => by cases hin
  | _ => exact hc

theorem ownerStep_destruct {l l' : OwnerLocal} (h : ownerStep .destruct s l = some (s', l')) :
    s' = s ∧ l'.ops = [.stopGuard] := by
  obtain ⟨ops, destructed⟩ := l
  cases ops with
  | cons op ops => cases h
  | nil =>
    cases destructed <;> cases h
    exact ⟨rfl, rfl⟩

/-! ### Whole runs -/

theorem OwnerBlames.congr {mine : List Incident} {ops : List OwnerOp} (h : OwnerBlames s ops)
    (hs : Blaming s s' mine) (hmine : .stopFailed ∉ mine) (hevents : s'.events = s.events)
    (hstop : s'.stopFailed = s.stopFailed) (hcharged : Charged s' → Charged s ∨ s'.incidents ≠ []) :
    OwnerBlames s' ops where
  recorded hmem := by
    rw [hstop]
    exact h.recorded ((hs.mine _ hmem).resolve_right hmine)
  blamed hc := by
    have hcause : (Charged s ∨ ∃ op ∈ ops, op.records = true) ∨ s'.incidents ≠ [] := by
      rcases hc with hc | hc
      · exact (hcharged hc).imp_left .inl
      · exact .inl (.inr hc)
    rcases hcause with hc | hne
    · rw [Accused, hevents]
      exact (h.blamed hc).imp_left hs.ne_nil
    · exact .inl hne
  unstarted := by
    rw [hevents]
    exact h.unstarted

theorem producer_charges {a : ProducerAct P} {l l' : ProducerPc P} (hl : ProducerBlames s l)
    (h : sampleTrampoline a s l = some (s', l')) (hc : Charged s') :
    Charged s ∨ s'.incidents ≠ [] := by
  cases sampleTrampoline_step h with
  | storeFailed => exact .inr (hl.blamed rfl)
  | _ => exact .inl hc

theorem publisher_charges {t : Bool} {a : PublisherAct} {l l' : PublisherPc P}
    (hl : PublisherBlames s l) (h : publishLoop t a s l = some (s', l')) (hc : Charged s') :
    Charged s ∨ s'.incidents ≠ [] := by
  cases publishLoop_step h with
  | storeFailed | callNotifier => exact (hl.blamed rfl).imp_left .inl
  | _ => exact .inl hc

def ThreadBlames (s : Core P) : ∀ i, Local P i → Prop
  | .owner, (l : OwnerLocal) => OwnerBlames s l.ops
  | .producer, (l : ProducerPc P) => ProducerBlames s l
  | .publisher, (l : PublisherPc P) => PublisherBlames s l

def Thread.failures : Thread → List Incident
  | .owner => [.stopFailed]
  | .producer => [.malformedSample, .ringOverflow]
  | .publisher => [.sinkException]

section Reached
variable [Inhabited P] {t : Bool} {s : State P}

theorem threads_blaming {i : Thread} {a : Act P i} {c c' : Core P} {l l' : Local P i}
    (h : (threads P t).step i a c l = some (c', l')) : Blaming c c' i.failures := by
  cases i with
  | producer => exact producer_blaming h
  | publisher => exact publisher_blaming (threads_publisher h).2
  | owner =>
    rcases ownerStep_cases h with ⟨rfl, -⟩ | ⟨op, ops, r, -, he, -⟩
    · exact blaming_of_eq _ id id le_rfl rfl
    · exact exec_blaming he

theorem reachable_blames (h : (threads P t).Reachable s) :
    OwnerBlames s.shared (s.locals .owner : OwnerLocal).ops ∧
      ProducerBlames s.shared (s.locals .producer) ∧
      PublisherBlames s.shared (s.locals .publisher) := by
  have hall := (Threads.Reachable.outline (T := threads P t) (I := fun _ => True)
    (J := fun i s l => ThreadBlames s i l) ⟨trivial, ?_⟩ ?_ ?_ h).2
  · exact ⟨hall .owner, hall .producer, hall .publisher⟩
  · rintro (_ | _ | _)
    · constructor <;> simp [threads, Core.init, Charged]
    · constructor <;> simp [threads, Core.init, ProducerPc.failing]
    · constructor <;> simp [threads, Core.init, PublisherPc.failing, PublisherPc.reporting]
  · intro s i a s' l' hs _ hJ hst
    refine ⟨trivial, ?_⟩
    cases i with
    | producer => exact producer_blames hJ hst
    | publisher => exact publisher_blames hJ (threads_publisher hst).2
    | owner =>
      have hblames : OwnerBlames s.shared (s.locals .owner : OwnerLocal).ops := hJ
      have hsafe := (reachable_owner hs).2.safe
      show OwnerBlames s' (l' : OwnerLocal).ops
      rcases ownerStep_cases hst with ⟨rfl, hops, -, hl'⟩ | ⟨op, ops, r, hops, he, -⟩
      · rw [hops] at hblames
        rcases hl' with ⟨config, sink, notifier, rfl⟩ | ⟨d, rfl⟩
        · exact hblames.call rfl (by simp)
        · exact hblames.call rfl (by simp)
      · rw [hops] at hblames hsafe
        exact exec_blames hsafe hblames he
  · intro s i a s' l' _ _ hJ hst j hj hother
    have hblaming := threads_blaming hst
    cases j with
    | producer =>
      refine ProducerBlames.congr hother hblaming ?_
      cases i with
      | producer => exact absurd rfl hj
      | owner => simp [Thread.failures]
      | publisher => simp [Thread.failures]
    | publisher =>
      refine PublisherBlames.congr hother hblaming ?_
      cases i with
      | publisher => exact absurd rfl hj
      | owner => simp [Thread.failures]
      | producer => simp [Thread.failures]
    | owner =>
      cases i with
      | owner => exact absurd rfl hj
      | producer =>
        obtain ⟨hf, -⟩ := sampleTrampoline_frame hst
        exact OwnerBlames.congr hother hblaming (by simp [Thread.failures]) hf.events hf.stopFailed
          (producer_charges hJ hst)
      | publisher =>
        obtain ⟨hf, -⟩ := publishLoop_frame (threads_publisher hst).2
        exact OwnerBlames.congr hother hblaming (by simp [Thread.failures]) hf.events hf.stopFailed
          (publisher_charges hJ (threads_publisher hst).2)

theorem reachable_causes (h : (threads P t).Reachable s) : Causes s.shared := by
  refine Threads.Reachable.sharedInvariant (T := threads P t) (I := Causes) ?_ ?_ h
  · constructor <;> simp [threads, Core.init, StopReturned]
  · intro s i a s' l' hs hI hst
    obtain ⟨hcallback, hreturned, hsink⟩ := hI
    have hblaming := threads_blaming hst
    cases i with
    | owner =>
      rcases ownerStep_cases hst with ⟨rfl, -⟩ | ⟨op, ops, r, -, he, -⟩
      · exact ⟨hcallback, hreturned, hsink⟩
      · exact exec_causes ⟨hcallback, hreturned, hsink⟩ he
    | producer =>
      obtain ⟨hf, -⟩ := sampleTrampoline_frame hst
      refine ⟨callback_startCalled hcallback hst, ?_, ?_⟩
      · rw [hf.events, hf.stoppedOk]
        exact fun hret => (hreturned hret).imp_right (hblaming.incidents.subset ·)
      · rw [hf.events]
        exact fun hmem => hsink ((hblaming.mine _ hmem).resolve_right (by simp [Thread.failures]))
    | publisher =>
      obtain ⟨hrun, hstep⟩ := threads_publisher hst
      obtain ⟨hf, hd⟩ := publishLoop_frame hstep
      refine ⟨hd ▸ hcallback, ?_, fun _ => ?_⟩
      · rw [hf.events, hd]
        exact fun hret => (hreturned hret).imp_right (hblaming.incidents.subset ·)
      · rw [hf.events]
        by_contra hunspawned
        simp [(reachable_owner hs).1.spawned.mpr hunspawned] at hrun

theorem charged_blamed (h : (threads P t).Reachable s) (hc : Charged s.shared)
    (hcalls : .returnStart true ∈ s.shared.events ∨
      s.shared.events = [] ∧ (s.locals .owner : OwnerLocal).ops = []) : s.shared.incidents ≠ [] := by
  refine ((reachable_blames h).1.blamed (.inl hc)).resolve_right fun hfailed => ?_
  rcases hcalls with hstart | ⟨hevents, hops⟩
  · exact hfailed.1 hstart
  · simp [hevents, hops, failing, Returned] at hfailed

/-! ### When nothing runs any more -/

def Closed (s : Core P) : Prop := s.startClaimed = false ∨ ∃ result, .returnStop result ∈ s.events

structure Resting (s : State P) : Prop where
  callback : s.locals .producer = (.idle : ProducerPc P)
  driver : (s.shared.driver.startCalled && !s.shared.driver.stoppedOk) = false
  publisher : s.shared.publisher = .none ∨ s.shared.publisher = .joined

theorem closed_stored (h : (threads P t).Reachable s) (hclosed : Closed s.shared) :
    (s.locals .owner : OwnerLocal).ops.head? ≠ some .storeStopFailed := by
  obtain ⟨hL, hsafe, -, -⟩ := reachable_owner h
  intro hhead
  obtain ⟨rest, hops⟩ := List.head?_eq_some_iff.mp hhead
  rw [hops] at hsafe
  obtain ⟨hreturned, hnone⟩ : Holds s.shared .failing := hsafe.1 _ (by simp)
  rcases hclosed with hc | ⟨result, hr⟩
  · have hstarted := hL.stopped (hL.stopReturned hreturned)
    simp [(hL.unclaimed hc).2.2.1] at hstarted
  · exact hnone result hr

theorem closed_resting (h : (threads P t).Reachable s) (hclosed : Closed s.shared)
    (hstop : s.shared.stopFailed = false) : Resting s := by
  obtain ⟨hL, -⟩ := reachable_owner h
  obtain ⟨hcallback, hreturned, -⟩ := reachable_causes h
  obtain ⟨hblames, -, -⟩ := reachable_blames h
  have hpublisher : s.shared.publisher = .none ∨ s.shared.publisher = .joined := by
    rcases hclosed with hc | ⟨result, hr⟩
    · exact .inl (hL.unclaimed hc).2.1
    · exact (hL.stopReturn result hr).2.2.1
  have hdriver : s.shared.driver.startCalled = false ∨ s.shared.driver.stoppedOk = true := by
    by_cases hstarted : s.shared.startAttempted = true
    · right
      have hret : StopReturned s.shared.events := by
        rcases hclosed with hc | ⟨result, hr⟩
        · simp [(hL.unclaimed hc).2.2.1] at hstarted
        · exact (hL.stopReturn result hr).2.2.2.1 hstarted
      refine (hreturned hret).resolve_right fun hmem => ?_
      have hrecorded := (hblames.recorded hmem).resolve_right (closed_stored h hclosed)
      exact absurd (hstop.symm.trans hrecorded) (by decide)
    · left
      rw [hL.startCalled]
      exact Bool.eq_false_of_not_eq_true hstarted
  have hin : s.shared.driver.inCallback = false := by
    by_contra hin
    rcases hdriver with hd | hd
    · simp [hcallback (Bool.eq_true_of_not_eq_false hin)] at hd
    · exact hin ((reachable_drain h).1.inCallback hd)
  refine ⟨?_, by rcases hdriver with hd | hd <;> simp [hd], hpublisher⟩
  have hproducer : ProducerOk s.shared (s.locals .producer) := (reachable_dispatch h).2.1
  cases hl : (s.locals .producer : ProducerPc P) with
  | idle => rfl
  | _ => simp [hl, ProducerOk, hin] at hproducer

theorem closed_recorded (h : (threads P t).Reachable s) (hclosed : Closed s.shared)
    (hincidents : s.shared.incidents ≠ []) :
    s.shared.failed = true ∨ s.shared.stopFailed = true := by
  by_contra hnone
  simp only [not_or, Bool.not_eq_true] at hnone
  obtain ⟨hfailed, hstop⟩ := hnone
  obtain ⟨howner, hproducer, hpublisher⟩ := reachable_blames h
  obtain ⟨hcallback, -, hrunning⟩ := closed_resting h hclosed hstop
  rw [hcallback] at hproducer
  obtain ⟨i, hi⟩ := List.exists_mem_of_ne_nil _ hincidents
  cases i with
  | malformedSample => simpa [hfailed, ProducerPc.failing] using hproducer.recorded (.inl hi)
  | ringOverflow => simpa [hfailed, ProducerPc.failing] using hproducer.recorded (.inr hi)
  | stopFailed =>
    have hrecorded := (howner.recorded hi).resolve_right (closed_stored h hclosed)
    exact absurd (hstop.symm.trans hrecorded) (by decide)
  | sinkException =>
    have hjoined : s.shared.publisher = .joined := hrunning.resolve_left fun hnone =>
      (reachable_owner h).1.spawned.mp hnone ((reachable_causes h).sinkException hi)
    rw [(reachable_drain h).2.finished (.inr hjoined)] at hpublisher
    simpa [hfailed, PublisherPc.failing] using hpublisher.recorded hi

theorem closed_step (h : (threads P t).Reachable s) (hclosed : Closed s.shared)
    (hstop : s.shared.stopFailed = false) {i : Thread} (hi : i ≠ .owner) (a : Act P i) :
    (threads P t).step i a s.shared (s.locals i) = none := by
  obtain ⟨hcallback, hdriver, hpublisher⟩ := closed_resting h hclosed hstop
  cases i with
  | owner => exact absurd rfl hi
  | publisher =>
    refine if_neg ?_
    rcases hpublisher with hp | hp <;> simp [hp]
  | producer =>
    show sampleTrampoline a s.shared (s.locals .producer) = none
    rw [hcallback]
    cases a with
    | callback sample nowNs => simp [sampleTrampoline, hdriver]
    | step => rfl

end Reached

end RoboBaton.Imu
