import RoboBaton.Imu.Core

/-! Everything that a step of each thread of the IMU core can do, with its guards. What the
steps preserve is proved by cases on these relations. -/

namespace RoboBaton.Imu
open WrapRing Metrics
variable {P : Type} {s s' : Core P}

/-! ### The acquisition callback -/

inductive ProducerStep (s : Core P) :
    ProducerAct P → ProducerPc P → Core P → ProducerPc P → Prop
  | enterCounted (sample nowNs) (hcalled : s.driver.startCalled = true)
      (hrunning : s.driver.stoppedOk = false) (henabled : s.metricsEnabled = true)
      (hwell : wellFormed sample = true) :
    ProducerStep s (.callback sample nowNs) .idle
      { s with driver := { s.driver with inCallback := true } } (.loadSourceCount sample nowNs)
  | enter (sample nowNs) (hcalled : s.driver.startCalled = true)
      (hrunning : s.driver.stoppedOk = false)
      (hplain : s.metricsEnabled = true → wellFormed sample = false) :
    ProducerStep s (.callback sample nowNs) .idle
      { s with driver := { s.driver with inCallback := true } } (.loadAdmission sample 0)
  | firstSource (sample arrivalNs) (hzero : s.sourceCount.load = 0) :
    ProducerStep s .step (.loadSourceCount sample arrivalNs) s (.storeSourceFirst sample arrivalNs)
  | laterSource (sample arrivalNs) (hzero : s.sourceCount.load ≠ 0) :
    ProducerStep s .step (.loadSourceCount sample arrivalNs) s (.addSourceCount sample arrivalNs)
  | storeSourceFirst (sample arrivalNs) :
    ProducerStep s .step (.storeSourceFirst sample arrivalNs) { s with sourceFirstNs := arrivalNs }
      (.addSourceCount sample arrivalNs)
  | addSourceCount (sample arrivalNs) :
    ProducerStep s .step (.addSourceCount sample arrivalNs)
      { s with sourceCount := s.sourceCount.fetchAdd 1 } (.loadAdmission sample arrivalNs)
  | refuse (sample arrivalNs) (hclosed : s.admission = false) :
    ProducerStep s .step (.loadAdmission sample arrivalNs) s.returnCallback .idle
  | malformed (sample arrivalNs) (hopen : s.admission = true) (hsize : wellFormed sample = false) :
    ProducerStep s .step (.loadAdmission sample arrivalNs) (s.incident .malformedSample)
      .closeAdmission
  | admitted (sample : Sample P) (arrivalNs) (hopen : s.admission = true)
      (hsize : wellFormed (some sample) = true) :
    ProducerStep s .step (.loadAdmission (some sample) arrivalNs) s (.loadWrite ⟨sample, arrivalNs⟩)
  | loadWrite (pending) : ProducerStep s .step (.loadWrite pending) s (.loadRead pending s.ring.write)
  | full (pending write) (hfull : write - s.ring.read = BitVec.ofNat 64 kPendingCapacity) :
    ProducerStep s .step (.loadRead pending write) (s.incident .ringOverflow) .closeAdmission
  | room (pending write) (hroom : write - s.ring.read ≠ BitVec.ofNat 64 kPendingCapacity) :
    ProducerStep s .step (.loadRead pending write) s (.fillSlot pending write)
  | fillSlot (pending write) : ProducerStep s .step (.fillSlot pending write)
      { s with ring := s.ring.putSlot write pending } (.storeWrite pending write)
  | storeWrite (pending write) : ProducerStep s .step (.storeWrite pending write)
      { s.returnCallback with
        ring := s.ring.advanceWrite write, admitted := s.admitted ++ [pending] } .idle
  | closeAdmission : ProducerStep s .step .closeAdmission { s with admission := false } .storeFailed
  | storeFailed :
    ProducerStep s .step .storeFailed { s.returnCallback with failed := true } .idle

theorem sampleTrampoline_step {a : ProducerAct P} {l l' : ProducerPc P}
    (h : sampleTrampoline a s l = some (s', l')) : ProducerStep s a l s' l' := by
  cases l with
  | idle =>
    cases a with
    | step => cases h
    | callback sample nowNs =>
      obtain ⟨hguard, hx⟩ := Option.ite_none_right_eq_some.mp h
      obtain ⟨hcalled, hrunning⟩ :
          s.driver.startCalled = true ∧ s.driver.stoppedOk = false := by simpa using hguard
      split at hx <;> cases hx
      · rename_i hcounted
        obtain ⟨henabled, hwell⟩ := Bool.and_eq_true_iff.mp hcounted
        exact .enterCounted sample nowNs hcalled hrunning henabled hwell
      · rename_i hcounted
        refine .enter sample nowNs hcalled hrunning fun henabled => ?_
        simpa [henabled] using hcounted
  | loadSourceCount sample arrivalNs =>
    cases a <;> cases h
    split
    · exact .firstSource sample arrivalNs ‹_›
    · exact .laterSource sample arrivalNs ‹_›
  | storeSourceFirst sample arrivalNs => cases a <;> cases h; exact .storeSourceFirst _ _
  | addSourceCount sample arrivalNs => cases a <;> cases h; exact .addSourceCount _ _
  | loadAdmission sample arrivalNs =>
    cases a <;> try cases h
    simp only [sampleTrampoline] at h
    split at h
    · rename_i hopen
      split at h
      · cases h
        exact .malformed none arrivalNs hopen rfl
      · rename_i sample
        split at h <;> cases h
        · exact .admitted sample arrivalNs hopen (beq_iff_eq.mpr ‹_›)
        · exact .malformed (some sample) arrivalNs hopen (beq_eq_false_iff_ne.mpr ‹_›)
    · rename_i hclosed
      cases h
      exact .refuse sample arrivalNs (Bool.eq_false_iff.mpr hclosed)
  | loadWrite pending => cases a <;> cases h; exact .loadWrite pending
  | loadRead pending write =>
    cases a <;> try cases h
    simp only [sampleTrampoline] at h
    split at h <;> cases h
    · exact .full pending write ‹_›
    · exact .room pending write ‹_›
  | fillSlot pending write => cases a <;> cases h; exact .fillSlot pending write
  | storeWrite pending write => cases a <;> cases h; exact .storeWrite pending write
  | closeAdmission => cases a <;> cases h; exact .closeAdmission
  | storeFailed => cases a <;> cases h; exact .storeFailed

/-! ### The publisher thread -/

inductive PublisherStep (temperature : Bool) (s : Core P) :
    PublisherPc P → Core P → PublisherPc P → Prop
  | failed (hfailed : s.failed = true) : PublisherStep temperature s .loadFailed s .storeFailed
  | healthy (hfailed : s.failed = false) : PublisherStep temperature s .loadFailed s .loadRead
  | loadRead : PublisherStep temperature s .loadRead s (.loadWrite s.ring.read)
  | nonempty (read) (hne : read ≠ s.ring.write) :
    PublisherStep temperature s (.loadWrite read) s (.copySlot read)
  | empty (read) (heq : read = s.ring.write) :
    PublisherStep temperature s (.loadWrite read) s (.loadStop read)
  | copySlot (read) :
    PublisherStep temperature s (.copySlot read) s (.storeRead read (s.ring.front read))
  | storeRead (read pending) : PublisherStep temperature s (.storeRead read pending)
      { s with ring := s.ring.advanceRead read, taken := s.taken + 1 }
      (recordIf s (recordSourceWithoutSequence pending.sample.sampleTimestampNs pending.arrivalNs)
        (.callSink pending))
  | recorded (then_) : PublisherStep temperature s (.record [] then_) s then_
  | access (spurious access accesses then_) :
    PublisherStep temperature s (.record (access :: accesses) then_)
      { s with metrics := (access.exec spurious s.metrics).1 }
      (.record ((access.exec spurious s.metrics).2 ++ accesses) then_)
  | callSink (pending) (hsink : s.sink = true) : PublisherStep temperature s (.callSink pending)
      { s with handed := s.handed ++ [pending.sample] } .stampImu
  | noSink (pending) (hsink : s.sink = false) :
    PublisherStep temperature s (.callSink pending) (s.incident .sinkException) .closeAdmission
  | stampImu : PublisherStep temperature s .stampImu s .publishImu
  | throwStamp : PublisherStep temperature s .stampImu (s.incident .sinkException) .closeAdmission
  | publishImu (latencyNs) : PublisherStep temperature s .publishImu s
      (recordIf s (recordPublishSuccess latencyNs) .publishTemperature)
  | throwPublish : PublisherStep temperature s .publishImu (s.incident .sinkException)
      (recordIf s recordPublishFailure .closeAdmission)
  | publishTemperature (htemperature : temperature = true) :
    PublisherStep temperature s .publishTemperature s
      (recordIf s recordAuxiliaryPublishSuccess .loadFailed)
  | noTemperature (htemperature : temperature = false) :
    PublisherStep temperature s .publishTemperature s .loadFailed
  | throwTemperature (htemperature : temperature = true) :
    PublisherStep temperature s .publishTemperature (s.incident .sinkException)
      (recordIf s recordPublishFailure .closeAdmission)
  | closeAdmission :
    PublisherStep temperature s .closeAdmission { s with admission := false } .storeFailed
  | storeFailed :
    PublisherStep temperature s .storeFailed { s with failed := true } .exchangeNotified
  | notify (hfirst : s.failureNotified = false) (hnotifier : s.notifier = true) :
    PublisherStep temperature s .exchangeNotified { s with failureNotified := true } .callNotifier
  | leave (hsilent : s.failureNotified = true ∨ s.notifier = false) :
    PublisherStep temperature s .exchangeNotified
      { s with failureNotified := true, publisher := .finished } .finished
  | callNotifier : PublisherStep temperature s .callNotifier
      { s with notifications := s.notifications + 1, publisher := .finished } .finished
  | stopping (read) (hstop : s.publisherStop = true) :
    PublisherStep temperature s (.loadStop read) s (.reloadWrite read)
  | again (read) (hstop : s.publisherStop = false) :
    PublisherStep temperature s (.loadStop read) s .loadFailed
  | drained (read) (heq : read = s.ring.write) : PublisherStep temperature s (.reloadWrite read)
      { s with publisher := .finished } .finished
  | refilled (read) (hne : read ≠ s.ring.write) :
    PublisherStep temperature s (.reloadWrite read) s .loadFailed

theorem publishLoop_step {temperature : Bool} {a : PublisherAct} {l l' : PublisherPc P}
    (h : publishLoop temperature a s l = some (s', l')) : PublisherStep temperature s l s' l' := by
  cases l with
  | loadFailed =>
    cases a <;> cases h
    cases hfailed : s.failed
    · exact .healthy hfailed
    · exact .failed hfailed
  | loadRead => cases a <;> cases h; exact .loadRead
  | loadWrite read =>
    cases a <;> cases h
    split
    · exact .nonempty read ‹_›
    · exact .empty read (not_not.mp ‹_›)
  | copySlot read => cases a <;> cases h; exact .copySlot read
  | storeRead read pending => cases a <;> cases h; exact .storeRead read pending
  | record accesses then_ =>
    -- a compare-exchange may fail spuriously and is tried again
    cases accesses with
    | nil =>
      cases a <;> cases h
      exact .recorded l'
    | cons access accesses =>
      cases a with
      | step => cases h; exact .access false access accesses then_
      | spurious => cases h; exact .access true access accesses then_
      | returns => cases h
      | throws => cases h
  | callSink pending =>
    cases a <;> try cases h
    simp only [publishLoop] at h
    split at h <;> cases h
    · exact .callSink pending ‹_›
    · exact .noSink pending (Bool.eq_false_iff.mpr ‹_›)
  | stampImu =>
    cases a with
    | step => cases h; exact .stampImu
    | throws => cases h; exact .throwStamp
    | spurious => cases h
    | returns => cases h
  | publishImu =>
    cases a with
    | returns latencyNs => cases h; exact .publishImu latencyNs
    | throws => cases h; exact .throwPublish
    | step => cases h
    | spurious => cases h
  | publishTemperature =>
    cases temperature <;> cases a <;> cases h
    · exact .noTemperature rfl
    · exact .publishTemperature rfl
    · exact .throwTemperature rfl
  | closeAdmission => cases a <;> cases h; exact .closeAdmission
  | storeFailed => cases a <;> cases h; exact .storeFailed
  | exchangeNotified =>
    cases a <;> try cases h
    simp only [publishLoop] at h
    split at h <;> cases h
    · rename_i hnotify
      obtain ⟨hfirst, hnotifier⟩ : s.failureNotified = false ∧ s.notifier = true := by
        simpa using hnotify
      exact .notify hfirst hnotifier
    · rename_i hsilent
      refine .leave ?_
      cases hfirst : s.failureNotified
      · exact .inr (by simpa [hfirst] using hsilent)
      · exact .inl rfl
  | callNotifier => cases a <;> cases h; exact .callNotifier
  | loadStop read =>
    cases a <;> cases h
    cases hstop : s.publisherStop
    · exact .again read hstop
    · exact .stopping read hstop
  | reloadWrite read =>
    cases a <;> try cases h
    simp only [publishLoop] at h
    split at h <;> cases h
    · exact .drained read ‹_›
    · exact .refilled read ‹_›
  | finished => cases a <;> cases h

/-! ### The callers -/

/-- An instruction of `Start` or `Stop`. `rest` is the code after it. -/
inductive OwnerStep (s : Core P) (rest : List OwnerOp) : OwnerOp → Core P → List OwnerOp → Prop
  | rejected (config sink notifier) (hguard : s.startClaimed = true ∨ s.terminal = true) :
    OwnerStep s rest (.startGuard config sink notifier) s [.returnStart false]
  | claim (config sink notifier) (hclaim : s.startClaimed = false) (hopen : s.terminal = false) :
    OwnerStep s rest (.startGuard config sink notifier)
      { s with startClaimed := true, sink := sink, notifier := notifier,
               metricsEnabled := config.rateMetricsEnabled } [.create config]
  | noHandle (config status) : OwnerStep s rest (.create config)
      (s.emit (.create config status none))
      ([.setTerminal] ++ recordFailure ++ [.returnStart false])
  | badStatus (config status handle) (hstatus : status ≠ statusOk) :
    OwnerStep s rest (.create config) (s.emit (.create config status (some handle)))
      ([.destroyCandidate handle, .setTerminal] ++ recordFailure ++ [.returnStart false])
  | created (config handle) : OwnerStep s rest (.create config)
      { s.emit (.create config statusOk (some handle)) with handle := some handle } [.setCallback]
  | destroyCandidate (handle) : OwnerStep s rest (.destroyCandidate handle)
      (s.emit (.destroy (some handle))) rest
  | callbackSet : OwnerStep s rest .setCallback (s.emit (.setCallback s.handle statusOk))
      [.storeAdmission true, .spawnPublisher]
  | callbackRefused (code) (hcode : code ≠ statusOk) :
    OwnerStep s rest .setCallback (s.emit (.setCallback s.handle code)) abandonStart
  | storeAdmission (value) :
    OwnerStep s rest (.storeAdmission value) { s with admission := value } rest
  | spawned : OwnerStep s rest .spawnPublisher
      { s.emit (.spawnPublisher true) with publisher := .running } [.driverStart]
  | notSpawned : OwnerStep s rest .spawnPublisher (s.emit (.spawnPublisher false)) abandonStart
  | driverStart : OwnerStep s rest .driverStart
      { s.emit (.start s.handle) with
        startAttempted := true, driver := { s.driver with startCalled := true } }
      [.driverStartReturn]
  | started : OwnerStep s rest .driverStartReturn s [.returnStart true]
  | notStarted : OwnerStep s rest .driverStartReturn s
      [.storeAdmission false, .driverStop, .driverStopReturn .startFailure]
  | stopped (hterminal : s.terminal = true) (hnone : s.handle = none) :
    OwnerStep s rest .stopGuard s [.returnStop (!s.stopFailed)]
  | stopDriver (hsome : s.handle ≠ none) (hattempted : s.startAttempted = true) :
    OwnerStep s rest .stopGuard { s with terminal := true } [.driverStop, .driverStopReturn .stop]
  | stopIdle (hopen : s.terminal = true → s.handle ≠ none)
      (hidle : s.handle = none ∨ s.startAttempted = false) :
    OwnerStep s rest .stopGuard { s with terminal := true } (stopTail statusOk)
  | driverStop : OwnerStep s rest .driverStop (s.emit (.stop s.handle)) rest
  | driverStopped (site) (hin : s.driver.inCallback = false) :
    OwnerStep s rest (.driverStopReturn site)
      { s.emit (.stopReturned statusOk) with driver := { s.driver with stoppedOk := true } }
      (afterStop site statusOk)
  | driverStopFailed (site code) (hcode : code ≠ statusOk) :
    OwnerStep s rest (.driverStopReturn site)
      ((s.emit (.stopReturned code)).incident .stopFailed) (afterStop site code)
  | storeStopFailed : OwnerStep s rest .storeStopFailed { s with stopFailed := true } rest
  | storePublisherStop : OwnerStep s rest .storePublisherStop { s with publisherStop := true } rest
  | joined (hfinished : s.publisher = .finished) : OwnerStep s rest .joinPublisher
      { s.emit .joinPublisher with publisher := .joined } rest
  | notJoinable (hstill : s.publisher = .none ∨ s.publisher = .joined) :
    OwnerStep s rest .joinPublisher s rest
  | destroyHandle (handle) (hsome : s.handle = some handle) : OwnerStep s rest .destroyHandle
      { s.emit (.destroy (some handle)) with handle := none } rest
  | noHandleLeft (hnone : s.handle = none) : OwnerStep s rest .destroyHandle s rest
  | setTerminal : OwnerStep s rest .setTerminal { s with terminal := true } rest
  | storeFailed : OwnerStep s rest .storeFailed { s with failed := true } rest
  | notify (hfirst : s.failureNotified = false) (hnotifier : s.notifier = true) :
    OwnerStep s rest .exchangeNotified { s with failureNotified := true } (.callNotifier :: rest)
  | silent (hsilent : s.failureNotified = true ∨ s.notifier = false) :
    OwnerStep s rest .exchangeNotified { s with failureNotified := true } rest
  | callNotifier :
    OwnerStep s rest .callNotifier { s with notifications := s.notifications + 1 } rest
  | clearSink : OwnerStep s rest .clearSink { s.emit .clearSink with sink := false } rest
  | clearNotifier :
    OwnerStep s rest .clearNotifier { s.emit .clearNotifier with notifier := false } rest
  | returnStart (result) :
    OwnerStep s rest (.returnStart result) (s.emit (.returnStart result)) []
  | returnStop (result) : OwnerStep s rest (.returnStop result) (s.emit (.returnStop result)) []

theorem exec_step {op : OwnerOp} {rest ops : List OwnerOp} {r : Reply}
    (h : op.exec s rest r = some (s', ops)) : OwnerStep s rest op s' ops := by
  cases op with
  | startGuard config sink notifier =>
    cases r <;> try cases h
    simp only [OwnerOp.exec] at h
    split at h <;> cases h
    · exact .rejected config sink notifier (Bool.or_eq_true_iff.mp ‹_›)
    · rename_i hguard
      obtain ⟨hclaim, hopen⟩ : s.startClaimed = false ∧ s.terminal = false := by
        simpa using hguard
      exact .claim config sink notifier hclaim hopen
  | create config =>
    cases r <;> try cases h
    rename_i status handle
    cases handle with
    | none => cases h; exact .noHandle config status
    | some handle =>
      simp only [OwnerOp.exec] at h
      split at h <;> cases h
      · exact .badStatus config status handle ‹_›
      · rename_i hstatus
        obtain rfl := not_not.mp hstatus
        exact .created config handle
  | destroyCandidate handle => cases r <;> cases h; exact .destroyCandidate handle
  | setCallback =>
    cases r <;> cases h
    rename_i code
    by_cases hcode : code = statusOk
    · subst hcode
      exact .callbackSet
    · rw [if_pos hcode]
      exact .callbackRefused code hcode
  | storeAdmission value => cases r <;> cases h; exact .storeAdmission value
  | spawnPublisher =>
    cases r <;> try cases h
    rename_i ok
    cases ok <;> cases h
    · exact .notSpawned
    · exact .spawned
  | driverStart => cases r <;> cases h; exact .driverStart
  | driverStartReturn =>
    cases r <;> cases h
    split
    · exact .notStarted
    · exact .started
  | stopGuard =>
    cases r <;> try cases h
    simp only [OwnerOp.exec] at h
    split at h <;> cases h
    · rename_i hguard
      obtain ⟨hterminal, hnone⟩ := Bool.and_eq_true_iff.mp hguard
      exact .stopped hterminal (Option.isNone_iff_eq_none.mp hnone)
    · rename_i hguard
      have hopen : s.terminal = true → s.handle ≠ none := fun hterminal hnone =>
        hguard (by simp [hterminal, hnone])
      split
      · rename_i hdriver
        obtain ⟨hsome, hattempted⟩ := Bool.and_eq_true_iff.mp hdriver
        exact .stopDriver (Option.isSome_iff_ne_none.mp hsome) hattempted
      · rename_i hdriver
        refine .stopIdle hopen ?_
        cases hhandle : s.handle with
        | none => exact .inl rfl
        | some handle => exact .inr (by simpa [hhandle] using hdriver)
  | driverStop => cases r <;> cases h; exact .driverStop
  | driverStopReturn site =>
    cases r <;> try cases h
    rename_i code
    simp only [OwnerOp.exec] at h
    split at h
    · rename_i hcode
      subst hcode
      split at h <;> cases h
      exact .driverStopped site (Bool.eq_false_iff.mpr ‹_›)
    · cases h
      exact .driverStopFailed site code ‹_›
  | storeStopFailed => cases r <;> cases h; exact .storeStopFailed
  | storePublisherStop => cases r <;> cases h; exact .storePublisherStop
  | joinPublisher =>
    cases r <;> try cases h
    cases hpublisher : s.publisher <;> simp only [OwnerOp.exec, hpublisher] at h <;> cases h
    · exact .notJoinable (.inl hpublisher)
    · exact .joined hpublisher
    · exact .notJoinable (.inr hpublisher)
  | destroyHandle =>
    cases r <;> try cases h
    cases hhandle : s.handle <;> simp only [OwnerOp.exec, hhandle] at h <;> cases h
    · exact .noHandleLeft hhandle
    · exact .destroyHandle _ hhandle
  | setTerminal => cases r <;> cases h; exact .setTerminal
  | storeFailed => cases r <;> cases h; exact .storeFailed
  | exchangeNotified =>
    cases r <;> cases h
    split
    · rename_i hnotify
      obtain ⟨hfirst, hnotifier⟩ : s.failureNotified = false ∧ s.notifier = true := by
        simpa using hnotify
      exact .notify hfirst hnotifier
    · rename_i hsilent
      refine .silent ?_
      cases hfirst : s.failureNotified
      · exact .inr (by simpa [hfirst] using hsilent)
      · exact .inl rfl
  | callNotifier => cases r <;> cases h; exact .callNotifier
  | clearSink => cases r <;> cases h; exact .clearSink
  | clearNotifier => cases r <;> cases h; exact .clearNotifier
  | returnStart result => cases r <;> cases h; exact .returnStart result
  | returnStop result => cases r <;> cases h; exact .returnStop result

end RoboBaton.Imu
