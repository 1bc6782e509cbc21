import RoboBaton.Imu.Work

/-! `Start`, `Stop` and the acquisition callback always come to an end: whoever waits, waits for a
thread that can go on, and there is a bound for what is left to do. The callback itself waits for
nothing and repeats nothing. -/

namespace RoboBaton.Imu
open WrapRing Metrics Discipline Transition
variable {P : Type} {t : Bool} {s s' : Core P}

/-! ### The join -/

@[simp] def joinRules : Rules OwnerOp Unit where
  ends := []
  contract
    | .storePublisherStop => { gives := [()] }
    | .joinPublisher => { needs := [()] }
    | _ => {}

def Stopping (s : Core P) : Unit → Prop := fun _ => s.publisherStop = true

theorem joins_abandonStart (known : Unit → Prop) : joinRules.Safe known abandonStart := by
  simp [abandonStart, recordFailure]

theorem joins_afterStop (known : Unit → Prop) (site : StopSite) (status : Status) :
    joinRules.Safe known (afterStop site status) := by
  by_cases hok : status = statusOk <;> cases site <;>
    simp [afterStop, startFailureTail, stopTail, finishPublisher, recordFailure, hok]

theorem exec_joins {op : OwnerOp} {rest ops : List OwnerOp} {r : Reply}
    (hsafe : joinRules.Safe (Stopping s) (op :: rest)) (h : op.exec s rest r = some (s', ops)) :
    joinRules.Safe (Stopping s') ops := by
  cases exec_step h with
  | storePublisherStop => exact hsafe.tail (fun _ _ _ => rfl) fun _ _ => rfl
  | callbackRefused | notSpawned => exact joins_abandonStart _
  | driverStopped site => exact joins_afterStop _ site statusOk
  | driverStopFailed site code => exact joins_afterStop _ site code
  | stopIdle => exact joins_afterStop _ .stop statusOk
  | notify =>
    have hrest : joinRules.Safe (Stopping s) rest := hsafe.tail (fun _ h _ => h) nofun
    exact ⟨nofun, hrest.mono fun _ h => .inl ⟨h, List.not_mem_nil⟩⟩
  | destroyCandidate | storeAdmission | driverStop | storeStopFailed | joined | notJoinable
  | destroyHandle | noHandleLeft | setTerminal | storeFailed | silent | callNotifier | clearSink
  | clearNotifier =>
    exact hsafe.tail (fun _ h _ => h) nofun
  | _ => simp [recordFailure]

/-! ### The publisher thread -/

structure Seated (s : Core P) (l : PublisherPc P) : Prop where
  fresh : s.publisher = .none → l = .loadFailed
  left : l = .finished → s.publisher ≠ .running

theorem exec_seated {op : OwnerOp} {rest ops : List OwnerOp} {r : Reply} {l : PublisherPc P}
    (hl : Seated s l) (hspawn : op = .spawnPublisher → s.publisher = .none)
    (h : op.exec s rest r = some (s', ops)) : Seated s' l := by
  cases exec_step h with
  | spawned => exact ⟨nofun, fun hleft => nomatch hleft.symm.trans (hl.fresh (hspawn rfl))⟩
  | joined => exact ⟨nofun, fun _ => nofun⟩
  | _ => exact ⟨hl.fresh, hl.left⟩

theorem resumes_ne_finished {l : PublisherPc P} (h : l.resumes = true) : l ≠ .finished := by
  rintro rfl
  cases h

theorem recordIf_ne_finished {then_ : PublisherPc P} (h : then_.resumes = true) (s : Core P)
    (accesses : List Access) : recordIf s accesses then_ ≠ .finished := by
  unfold recordIf
  split
  · exact nofun
  · exact resumes_ne_finished h

theorem publisher_seated {a : PublisherAct} {l l' : PublisherPc P} (hrun : s.publisher = .running)
    (hl : Recording s.metrics l) (h : publishLoop t a s l = some (s', l')) : Seated s' l' := by
  have hfresh : ∀ l' : PublisherPc P, s.publisher = .none → l' = .loadFailed := by simp [hrun]
  cases publishLoop_step h with
  | leave | callNotifier | drained => exact ⟨nofun, fun _ => nofun⟩
  | recorded then_ => exact ⟨hfresh _, fun hleft => absurd hleft (resumes_ne_finished hl.2.1)⟩
  | storeRead | publishImu | throwPublish | publishTemperature | throwTemperature =>
    exact ⟨hfresh _, fun hleft => absurd hleft (recordIf_ne_finished rfl _ _)⟩
  | _ => exact ⟨hfresh _, nofun⟩

section Reached
variable [Inhabited P] {s u : State P}

theorem reachable_joins (h : (threads P t).Reachable s) :
    joinRules.Safe (Stopping s.shared) (s.locals .owner : OwnerLocal).ops := by
  refine Threads.Reachable.focus (T := threads P t) (i := .owner)
    (J := fun s l => joinRules.Safe (Stopping s) (l : OwnerLocal).ops) nofun ?_ ?_ h
  · intro s a s' l' _ hJ hst
    obtain ⟨rfl, -, -, ⟨config, sink, notifier, rfl⟩ | ⟨d, rfl⟩⟩ | ⟨op, ops, r, hops, he, -⟩ :=
      ownerStep_cases hst
    · exact ⟨nofun, nofun⟩
    · exact ⟨nofun, nofun⟩
    · exact exec_joins (hops ▸ hJ) he
  · intro s j a s' l' hj _ hJ hst
    refine hJ.mono fun _ hstop => ?_
    cases j with
    | owner => exact absurd rfl hj
    | producer => exact (sampleTrampoline_frame hst).1.publisherStop.trans hstop
    | publisher =>
      exact (publishLoop_frame (threads_publisher hst).2).1.publisherStop.trans hstop

theorem reachable_seated (h : (threads P t).Reachable s) :
    Seated s.shared (s.locals .publisher) := by
  refine Threads.Reachable.focus (T := threads P t) (i := .publisher) (J := Seated)
    ⟨fun _ => rfl, nofun⟩ ?_ ?_ h
  · intro s a s' l' hs _ hst
    obtain ⟨hrun, hstep⟩ := threads_publisher hst
    exact publisher_seated hrun (reachable_recording hs) hstep
  · intro s j a s' l' hj hs hJ hst
    cases j with
    | publisher => exact absurd rfl hj
    | producer =>
      have hpub := (sampleTrampoline_frame hst).2
      exact ⟨fun hn => hJ.fresh (hpub.symm.trans hn), fun hl hr => hJ.left hl (hpub.symm.trans hr)⟩
    | owner =>
      obtain ⟨rfl, -⟩ | ⟨op, ops, r, hops, he, -⟩ := ownerStep_cases hst
      · exact hJ
      · refine exec_seated hJ ?_ he
        rintro rfl
        have hsafe := (reachable_owner hs).2.safe
        rw [hops] at hsafe
        exact (hsafe.1 .prepared (by simp)).2.1

end Reached

/-! ### Who can go on -/

/-- Steps that begin nothing, and in which nothing outside the core throws. -/
def isPlain : (Σ i, Act P i) → Bool
  | ⟨.owner, a⟩ =>
    match (a : OwnerAct) with
    | .reply _ => true
    | _ => false
  | ⟨.producer, a⟩ =>
    match (a : ProducerAct P) with
    | .step => true
    | _ => false
  | ⟨.publisher, a⟩ =>
    match (a : PublisherAct) with
    | .step => true
    | .returns _ => true
    | _ => false

theorem isPlain_gain {e : Σ i, Act P i} (h : isPlain e = true) : gain e = 0 := by
  obtain ⟨i, a⟩ := e
  cases i with
  | owner => cases (a : OwnerAct) <;> first | rfl | cases h
  | producer => cases (a : ProducerAct P) <;> first | rfl | cases h
  | publisher => rfl

theorem producer_moves (s : Core P) {l : ProducerPc P} (h : l ≠ .idle) :
    (sampleTrampoline .step s l).isSome := by
  cases l with
  | idle => exact absurd rfl h
  | loadAdmission sample arrivalNs =>
    simp only [sampleTrampoline]
    split
    · cases sample with
      | none => rfl
      | some sample =>
        show Option.isSome (if _ then _ else _)
        split <;> rfl
    · rfl
  | loadRead pending write =>
    simp only [sampleTrampoline]
    split <;> rfl
  | _ => rfl

theorem publisher_moves_on (s : Core P) {l : PublisherPc P} (h : l ≠ .finished) :
    ∃ a : PublisherAct, isPlain (P := P) ⟨.publisher, a⟩ = true ∧ a.cost = 1 ∧
      (publishLoop t a s l).isSome := by
  cases l with
  | finished => exact absurd rfl h
  | record accesses then_ => exact ⟨.step, rfl, rfl, by cases accesses <;> rfl⟩
  | publishImu => exact ⟨.returns 0, rfl, rfl, rfl⟩
  | callSink | exchangeNotified | reloadWrite =>
    refine ⟨.step, rfl, rfl, ?_⟩
    simp only [publishLoop]
    split <;> rfl
  | _ => exact ⟨.step, rfl, rfl, rfl⟩

theorem exec_moves (s : Core P) (op : OwnerOp) (rest : List OwnerOp) :
    (∃ r, (op.exec s rest r).isSome) ∨
      (∃ site, op = .driverStopReturn site) ∧ s.driver.inCallback = true ∨
      op = .joinPublisher ∧ s.publisher = .running := by
  cases op with
  | create config => exact .inl ⟨.created statusOk none, rfl⟩
  | setCallback | driverStartReturn => exact .inl ⟨.status statusOk, rfl⟩
  | spawnPublisher => exact .inl ⟨.spawned true, rfl⟩
  | driverStopReturn site =>
    cases hin : s.driver.inCallback
    · refine .inl ⟨.status statusOk, ?_⟩
      simp [OwnerOp.exec, hin]
    · exact .inr (.inl ⟨⟨site, rfl⟩, rfl⟩)
  | joinPublisher =>
    cases hpublisher : s.publisher
    case running => exact .inr (.inr ⟨rfl, rfl⟩)
    all_goals exact .inl ⟨.done, by simp [OwnerOp.exec, hpublisher]⟩
  | startGuard | stopGuard | destroyHandle =>
    refine .inl ⟨.done, ?_⟩
    simp only [OwnerOp.exec]
    split <;> rfl
  | _ => exact .inl ⟨.done, rfl⟩

theorem ownerStep_isSome {l : OwnerLocal} {op : OwnerOp} {rest : List OwnerOp} {r : Reply}
    (hops : l.ops = op :: rest) (h : (op.exec s rest r).isSome) :
    (ownerStep (.reply r) s l).isSome := by
  obtain ⟨ops, destructed⟩ := l
  obtain rfl : ops = op :: rest := hops
  exact Option.isSome_map.trans h

theorem ownerStep_reply {a : OwnerAct} {l l' : OwnerLocal} (h : ownerStep a s l = some (s', l'))
    (hops : l.ops ≠ []) : ∃ r, a = .reply r := by
  unfold ownerStep at h
  split at h
  · exact absurd rfl hops
  · exact absurd rfl hops
  · exact absurd rfl hops
  · exact ⟨_, rfl⟩
  · cases h

/-! ### Calls and callbacks come to an end -/

def AtRest (s : State P) : Prop :=
  (s.locals .owner : OwnerLocal).ops = [] ∧ s.locals .producer = (.idle : ProducerPc P)

def isCallback : (Σ i, Act P i) → Bool
  | ⟨.producer, .callback ..⟩ => true
  | _ => false

def isTrampoline : (Σ i, Act P i) → Bool
  | ⟨.producer, .step⟩ => true
  | _ => false

def isStart : (Σ i, Act P i) → Bool
  | ⟨.owner, .start ..⟩ => true
  | _ => false

def isStop : (Σ i, Act P i) → Bool
  | ⟨.owner, .stop⟩ => true
  | ⟨.owner, .destruct⟩ => true
  | _ => false

def ProducerPc.remaining : ProducerPc P → ℕ
  | .idle => 0
  | .storeWrite .. => 1
  | .fillSlot .. => 2
  | .storeFailed => 1
  | .closeAdmission => 2
  | .loadRead .. => 3
  | .loadWrite _ => 4
  | .loadAdmission .. => 5
  | .addSourceCount .. => 6
  | .storeSourceFirst .. => 7
  | .loadSourceCount .. => 8

theorem producer_remaining {a : ProducerAct P} {l l' : ProducerPc P}
    (h : sampleTrampoline a s l = some (s', l')) :
    l'.remaining + (if isTrampoline (P := P) ⟨.producer, a⟩ then 1 else 0) ≤
      l.remaining + 8 * (if isCallback (P := P) ⟨.producer, a⟩ then 1 else 0) := by
  cases sampleTrampoline_step h <;> simp [ProducerPc.remaining, isTrampoline, isCallback]

section Reached
variable [Inhabited P] {s u : State P}

theorem next_isSome {i : Thread} {a : Act P i}
    (h : ((threads P t).step i a s.shared (s.locals i)).isSome) :
    ∃ u, (threads P t).next ⟨i, a⟩ s = some u := by
  obtain ⟨r, hstep⟩ := Option.isSome_iff_exists.mp h
  exact ⟨_, by rw [Threads.next, hstep]; rfl⟩

theorem publisher_isSome {s : Core P} (hrunning : s.publisher = .running) {a : PublisherAct}
    {l : PublisherPc P} (h : (publishLoop t a s l).isSome) :
    ((threads P t).step .publisher a s l).isSome := by
  show (if s.publisher = .running then publishLoop t a s l else none : Option _).isSome
  rwa [if_pos hrunning]

theorem producer_idle (hs : (threads P t).Reachable s) (hin : s.shared.driver.inCallback = true) :
    s.locals .producer ≠ (.idle : ProducerPc P) := by
  intro hidle
  have hok := (reachable_dispatch hs).2.1
  rw [hidle] at hok
  exact absurd (hin.symm.trans hok) (by decide)

theorem moves (hs : (threads P t).Reachable s) (hrest : ¬ AtRest s) :
    ∃ e u, isPlain e = true ∧ (threads P t).next e s = some u ∧ 0 < cost s e := by
  by_cases hidle : s.locals .producer = (.idle : ProducerPc P)
  · cases hops : (s.locals .owner : OwnerLocal).ops with
    | nil => exact absurd ⟨hops, hidle⟩ hrest
    | cons op rest =>
      obtain ⟨r, hr⟩ | ⟨-, hin⟩ | ⟨rfl, hrunning⟩ := exec_moves s.shared op rest
      · have hstep := ownerStep_isSome hops hr
        obtain ⟨u, hu⟩ := next_isSome (t := t) (i := .owner) hstep
        exact ⟨⟨.owner, .reply r⟩, u, rfl, hu, Nat.one_pos⟩
      · exact absurd hidle (producer_idle hs hin)
      · -- the publisher that is joined was asked to stop, and has not left
        have hsafe := reachable_joins hs
        rw [hops] at hsafe
        have hstop : s.shared.publisherStop = true := hsafe.1 () (by simp)
        have hstay : s.locals .publisher ≠ (.finished : PublisherPc P) :=
          fun hleft => (reachable_seated hs).left hleft hrunning
        obtain ⟨a, hplain, hcost, hsome⟩ := publisher_moves_on (t := t) s.shared hstay
        obtain ⟨u, hu⟩ := next_isSome (publisher_isSome hrunning hsome)
        refine ⟨⟨.publisher, a⟩, u, hplain, hu, ?_⟩
        have hpolls : polls s.shared (s.locals .publisher) = false := by simp [polls, hstop]
        simp [cost, publisherCost, hpolls, hcost]
  · obtain ⟨u, hu⟩ := next_isSome (t := t) (i := .producer) (producer_moves s.shared hidle)
    exact ⟨⟨.producer, .step⟩, u, rfl, hu, Nat.one_pos⟩

/-- What is under way in a state can go on and is over after the work that is left; a callback
is over after eight instructions of its own, whatever the other threads do meanwhile. -/
structure Finishes (t : Bool) (s : State P) : Prop where
  moves : ¬ AtRest s → ∃ e u, isPlain e = true ∧ (threads P t).next e s = some u ∧ 0 < cost s e
  attains : ∃ es u, (∀ e ∈ es, isPlain e = true) ∧
    (threads P t).toSystem.run es s = some u ∧ AtRest u ∧ es.length ≤ left s
  callback : ∀ es u, (threads P t).toSystem.run es s = some u →
    es.countP isTrampoline ≤
      ProducerPc.remaining (s.locals .producer) + 8 * es.countP isCallback

theorem trampoline_bounded {es : List (Σ i, Act P i)} (hs : (threads P t).Reachable s)
    (h : (threads P t).toSystem.run es s = some u) :
    es.countP isTrampoline ≤
      ProducerPc.remaining (s.locals .producer) + 8 * es.countP isCallback := by
  have hpaid := System.Reachable.spent_le (M := (threads P t).toSystem)
    (fun s => ProducerPc.remaining (s.locals .producer))
    (fun _ e => 1 * if isTrampoline e then 1 else 0) (fun _ e => 8 * if isCallback e then 1 else 0)
    ?_ hs h
  · rw [System.spent_countP _ _ h, System.spent_countP _ _ h, one_mul] at hpaid
    exact (Nat.le_add_left _ _).trans hpaid
  · rintro s ⟨i, a⟩ u - hn
    obtain ⟨s', l', hst, rfl⟩ := Threads.next_eq_some hn
    cases i with
    | owner => exact le_rfl
    | publisher => exact le_rfl
    | producer =>
      rw [one_mul]
      exact producer_remaining hst

/-- Every callback of the driver and every call of `Start` and `Stop` comes to an end, in
whatever state the threads have brought the core. -/
theorem finishes (hs : (threads P t).Reachable s) : Finishes t s where
  moves := moves hs
  attains := System.Reachable.attains (M := (threads P t).toSystem) left cost (fun _ => gain) AtRest
    (fun e => isPlain e = true) (fun _ _ _ hs h => step_paid hs h)
    (fun v hv hrest => by
      obtain ⟨e, u, hplain, hu, hcost⟩ := Imu.moves hv hrest
      exact ⟨e, u, hplain, hu, hcost, isPlain_gain hplain⟩) hs
  callback es u := trampoline_bounded hs

/-- However its threads interleave, the core executes a bounded number of instructions for each
callback and each call, the looks at an empty ring and spurious failures apart. -/
theorem work_bounded {es : List (Σ i, Act P i)}
    (h : (threads P t).toSystem.run es (threads P t).toSystem.start = some u) :
    (threads P t).toSystem.spent cost es (threads P t).toSystem.start ≤
      5 + 34 * es.countP isCallback + 21 * es.countP isStart + 14 * es.countP isStop := by
  have hpaid := System.Reachable.spent_le (M := (threads P t).toSystem) left cost (fun _ => gain)
    (fun _ _ _ hs h => step_paid hs h) System.Reachable.start h
  have hgain : (fun _ => gain : State P → (Σ i, Act P i) → ℕ) = fun _ e =>
      (34 * (if isCallback e then 1 else 0) + 21 * (if isStart e then 1 else 0)) +
        14 * (if isStop e then 1 else 0) := by
    funext _ e
    obtain ⟨i, a⟩ := e
    cases i with
    | owner => cases (a : OwnerAct) <;> simp [gain, OwnerAct.gain, isCallback, isStart, isStop]
    | producer =>
      cases (a : ProducerAct P) <;> simp [gain, ProducerAct.gain, isCallback, isStart, isStop]
    | publisher => rfl
  rw [hgain, System.spent_add, System.spent_add, System.spent_countP _ _ h,
    System.spent_countP _ _ h, System.spent_countP _ _ h] at hpaid
  have hstart : left (threads P t).toSystem.start = 5 := rfl
  omega

end Reached

/-! ### Runs -/

theorem work_bounded_oneSample :
    (threads Unit false).toSystem.spent cost oneSampleRun (threads Unit false).toSystem.start ≤
      5 + 34 * oneSampleRun.countP isCallback + 21 * oneSampleRun.countP isStart +
        14 * oneSampleRun.countP isStop :=
  work_bounded (u := oneSampleEnd) (Option.some_get _).symm

def stoppingRun : List (Σ i, Act Unit i) :=
  ownerDoes [.start ⟨200, 8, 1, false⟩ true true, .reply .done,
    .reply (.created statusOk (some 7)), .reply (.status statusOk), .reply .done,
    .reply (.spawned true), .reply .done, .reply (.status statusOk), .reply .done] ++
  producerDoes [.callback (some ⟨sampleStructSize, 5, ()⟩) 11, .step, .step, .step, .step, .step,
    .callback (some ⟨sampleStructSize, 6, ()⟩) 12, .step, .step] ++
  ownerDoes [.destruct, .reply .done, .reply .done]

def stoppingEnd : State Unit :=
  ((threads Unit false).toSystem.run stoppingRun (threads Unit false).toSystem.start).get rfl

theorem finishes_stopping : ¬ AtRest stoppingEnd ∧ Finishes false stoppingEnd :=
  ⟨fun h => (nomatch h.1), finishes (System.reachable_get _)⟩

end RoboBaton.Imu
