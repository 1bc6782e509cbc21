import RoboBaton.Imu.Consistency
import RoboBaton.Imu.Drain

/-! Failures and the notifier: who sets `failed_`, who calls the notifier for it, and the one
exit of the publisher that overlooks a failure of the callback. -/

namespace RoboBaton.Imu
open Trace Discipline Transition
variable {P : Type}

/-! ### The history -/

/-- Whether the current call of `Start` has claimed the core, whether the notifier that it
was given is not empty, and whether the publisher has returned from its stop check although
`failed_` was set. -/
structure Watch where
  claiming : Bool
  notifier : Bool
  missed : Bool

def watchOwner : OwnerAct → Core P → OwnerLocal → Watch → Watch
  | .reply _, s, ⟨.startGuard _ _ notifier :: _, _⟩, w =>
    if s.startClaimed || s.terminal then w
    else { w with claiming := true, notifier := w.notifier && notifier }
  | .reply _, _, _, w => w
  | _, _, _, w => { w with claiming := false }

def watchPublisher (s : Core P) (pc : PublisherPc P) (w : Watch) : Watch :=
  match pc with
  | .reloadWrite read => if read = s.ring.write then { w with missed := w.missed || s.failed } else w
  | _ => w

def watchNotices (e : Σ i, Act P i) (s : State P) (w : Watch) : Watch :=
  match e with
  | ⟨.owner, a⟩ => watchOwner a s.shared (s.locals .owner) w
  | ⟨.producer, _⟩ => w
  | ⟨.publisher, _⟩ => watchPublisher s.shared (s.locals .publisher) w

def noticeWatch : Observer (State P) (Σ i, Act P i) Watch Empty where
  start := ⟨false, true, false⟩
  watch := watchNotices
  act b := nomatch b

variable (P) in
def noticeSystem [Inhabited P] (t : Bool) : System (State P × Watch) ((Σ i, Act P i) ⊕ Empty) :=
  (threads P t).toSystem.observed noticeWatch

/-! ### What the callers rely on -/

def Unstopped (s : Core P) : Prop := StopReturned s.events ∧ s.driver.stoppedOk = false

def Still (s : Core P) : Prop := s.publisher = .none ∨ s.publisher = .joined

inductive Notice
  | armed
  | poised
  | closing
  | still
  | calm
  | flagged
  | explained
  | answered
  deriving DecidableEq

/-- `explained`: a failure has been reported, will be seen by the publisher, or comes from a
callback that could not be stopped. -/
def Notice.Holds (s : Core P) (w : Watch) : Notice → Prop
  | .armed => s.notifier = true
  | .poised => s.startClaimed = true → s.terminal = false → s.notifier = true
  | .closing => s.terminal = true
  | .still => Still s
  | .calm => w.claiming = true → Still s
  | .flagged => s.failed = true
  | .explained => w.missed = false → s.failed = true →
      s.failureNotified = true ∨ s.publisher = .running ∨ Unstopped s
  | .answered => Unstopped s → s.failureNotified = true

@[simp] def noticeRules : Rules OwnerOp Notice where
  ends := [.poised, .explained, .answered]
  contract
    | .startGuard .. =>
      { needs := [.calm, .poised, .explained, .answered], gives := [.poised, .explained, .answered] }
    | .create _ | .setCallback | .spawnPublisher =>
      { needs := [.armed, .calm, .explained, .answered], gives := [.poised, .explained, .answered] }
    | .driverStart | .driverStartReturn | .driverStopReturn .startFailure =>
      { needs := [.armed, .explained, .answered], gives := [.poised, .explained, .answered] }
    | .driverStopReturn .stop =>
      { needs := [.armed, .closing, .explained, .answered], gives := [.poised, .explained, .answered] }
    | .stopGuard =>
      { needs := [.poised, .explained, .answered], gives := [.poised, .explained, .answered] }
    | .joinPublisher => { gives := [.still, .calm] }
    | .setTerminal => { gives := [.closing, .poised] }
    | .storeFailed => { gives := [.flagged], loses := [.explained] }
    | .exchangeNotified => { needs := [.armed, .flagged], gives := [.explained, .answered] }
    | .clearNotifier => { needs := [.closing, .still], loses := [.armed] }
    | .returnStart result =>
      { needs := [.poised, .explained, .answered] ++ if result then [] else [.calm] }
    | .returnStop _ => { needs := [.still, .poised, .explained, .answered] }
    | .destroyCandidate _ | .storeAdmission _ | .driverStop | .storeStopFailed
    | .storePublisherStop | .destroyHandle | .callNotifier | .clearSink => {}

section Programs
variable {known : Notice → Prop}

theorem notices_failedCreate (ha : known .armed) (hc : known .calm) (hw : known .answered) :
    noticeRules.Safe known ([.setTerminal] ++ recordFailure ++ [.returnStart false]) := by
  simp [recordFailure, ha, hc, hw]

theorem notices_abandonStart (ha : known .armed) (hc : known .calm) :
    noticeRules.Safe known abandonStart := by
  simp [abandonStart, recordFailure, ha, hc]

theorem notices_startFailureTail (status : Status) (ha : known .armed) :
    noticeRules.Safe known (startFailureTail status) := by
  by_cases h : status = statusOk <;>
    simp [startFailureTail, finishPublisher, recordFailure, h, ha]

theorem notices_stopTail (status : Status) (ho : known .closing) (hp : known .poised)
    (he : known .explained) (hf : status ≠ statusOk → known .armed)
    (hw : status = statusOk → known .answered) : noticeRules.Safe known (stopTail status) := by
  by_cases h : status = statusOk
  · simp [stopTail, finishPublisher, h, ho, hp, he, hw h]
  · simp [stopTail, finishPublisher, recordFailure, h, ho, hp, hf h]

end Programs

structure Unmoved (s s' : Core P) : Prop where
  notifier : s'.notifier = s.notifier
  startClaimed : s'.startClaimed = s.startClaimed
  terminal : s'.terminal = s.terminal
  publisher : s'.publisher = s.publisher
  failed : s'.failed = s.failed
  failureNotified : s'.failureNotified = s.failureNotified
  unstopped : Unstopped s' ↔ Unstopped s

theorem Unmoved.holds {s s' : Core P} {w : Watch} (h : Unmoved s s') {f : Notice}
    (hf : f.Holds s w) : f.Holds s' w := by
  obtain ⟨h1, h2, h3, h4, h5, h6, h7⟩ := h
  cases f <;> simp only [Notice.Holds, Still, h1, h2, h3, h4, h5, h6, h7] at hf ⊢ <;> exact hf

theorem unmoved_emit (s : Core P) {e : Event} (he : ∀ status, e ≠ .stopReturned status) :
    Unmoved s (s.emit e) :=
  ⟨rfl, rfl, rfl, rfl, rfl, rfl, by simp [Unstopped, Core.emit, he]⟩

section Owner
variable {s s' : Core P} {w : Watch} {rest ops : List OwnerOp} {r : Reply}

theorem startGuard_notices {config : CoreConfig} {sink notifier : Bool} {d : Bool} (hL : Ledger s)
    (hw : (watchOwner (.reply r) s ⟨.startGuard config sink notifier :: rest, d⟩ w).notifier = true)
    (hS : noticeRules.Safe (Notice.Holds s w) (.startGuard config sink notifier :: rest))
    (h : (OwnerOp.startGuard config sink notifier).exec s rest r = some (s', ops)) :
    noticeRules.Safe
      (Notice.Holds s' (watchOwner (.reply r) s ⟨.startGuard config sink notifier :: rest, d⟩ w))
      ops := by
  have hn : ∀ f ∈ [Notice.calm, .poised, .explained, .answered], f.Holds s w := hS.1
  have hcalm : Notice.calm.Holds s w := hn _ (by simp)
  have hpoised : Notice.poised.Holds s w := hn _ (by simp)
  have hexplained : Notice.explained.Holds s w := hn _ (by simp)
  have hanswered : Notice.answered.Holds s w := hn _ (by simp)
  cases r <;> try cases h
  simp only [OwnerOp.exec] at h
  simp only [watchOwner] at hw ⊢
  split at h
  · rename_i hguard
    cases h
    rw [if_pos hguard]
    simp [hcalm, hpoised, hexplained, hanswered]
  · rename_i hguard
    cases h
    rw [if_neg hguard] at hw ⊢
    simp only [Bool.and_eq_true] at hw
    obtain ⟨hc, -⟩ : s.startClaimed = false ∧ s.terminal = false := by simpa using hguard
    refine ⟨fun f hf => ?_, by simp⟩
    simp only [noticeRules, List.mem_cons, List.not_mem_nil, or_false] at hf
    obtain rfl | rfl | rfl | rfl := hf
    · exact hw.2
    · exact fun _ => .inl (hL.unclaimed hc).2.1
    · exact hexplained
    · exact hanswered

theorem exchange_notices (hS : noticeRules.Safe (Notice.Holds s w) (.exchangeNotified :: rest)) :
    noticeRules.Safe (Notice.Holds { s with failureNotified := true } w) rest := by
  refine hS.tail (fun f hf _ => ?_) fun f hf => ?_
  · cases f with
    | explained => exact fun _ _ => .inl rfl
    | answered => exact fun _ => rfl
    | _ => exact hf
  · simp only [noticeRules, List.mem_cons, List.not_mem_nil, or_false] at hf
    obtain rfl | rfl := hf
    · exact fun _ _ => .inl rfl
    · exact fun _ => rfl

theorem stopGuard_notices (hL : Ledger s) (hset : Settled s)
    (hS : noticeRules.Safe (Notice.Holds s w) (.stopGuard :: rest))
    (h : OwnerOp.stopGuard.exec s rest r = some (s', ops)) :
    noticeRules.Safe (Notice.Holds s' w) ops := by
  have hn : ∀ f ∈ [Notice.poised, .explained, .answered], f.Holds s w := hS.1
  have hpoised : Notice.poised.Holds s w := hn _ (by simp)
  have hexplained : Notice.explained.Holds s w := hn _ (by simp)
  have hanswered : Notice.answered.Holds s w := hn _ (by simp)
  have hclosing : Notice.closing.Holds { s with terminal := true } w := rfl
  have hpoised' : Notice.poised.Holds { s with terminal := true } w := fun _ ht => by cases ht
  have hexplained' : Notice.explained.Holds { s with terminal := true } w := hexplained
  have hanswered' : Notice.answered.Holds { s with terminal := true } w := hanswered
  cases exec_step h with
  | stopped hterminal hnone =>
    have hstill : Notice.still.Holds s w := (hset.1 hterminal).2.1
    simp [hstill, hpoised, hexplained, hanswered]
  | stopDriver hsome hattempted =>
    -- a stored handle belongs to a claimed core that is still open
    have hopen : s.terminal = false := Bool.eq_false_iff.mpr fun ht => hsome (hset.1 ht).1
    have hclaimed : s.startClaimed = true :=
      Bool.not_eq_false _ ▸ fun hc => hsome (hL.unclaimed hc).1
    have harmed : Notice.armed.Holds { s with terminal := true } w := hpoised hclaimed hopen
    simp [harmed, hclosing, hexplained', hanswered']
  | stopIdle hopen hidle =>
    exact notices_stopTail statusOk hclosing hpoised' hexplained' (fun hne => absurd rfl hne)
      fun _ => hanswered'

theorem driverStopReturn_notices {site : StopSite} (hstopping : ¬ StopReturned s.events)
    (hS : noticeRules.Safe (Notice.Holds s w) (.driverStopReturn site :: rest))
    (h : (OwnerOp.driverStopReturn site).exec s rest r = some (s', ops)) :
    noticeRules.Safe (Notice.Holds s' w) ops := by
  have harmed : s.notifier = true := hS.1 .armed (by cases site <;> simp)
  have hexplained : Notice.explained.Holds s w := hS.1 .explained (by cases site <;> simp)
  have hclosing : site = .stop → s.terminal = true := by
    rintro rfl
    exact hS.1 .closing (by simp)
  have hunstopped : ¬ Unstopped s := fun hu => hstopping hu.1
  have htail : ∀ {t : Core P} {code : Status}, t.notifier = true →
      (site = .stop → t.terminal = true) → Notice.explained.Holds t w →
      (code = statusOk → Notice.answered.Holds t w) →
      noticeRules.Safe (Notice.Holds t w) (afterStop site code) := by
    intro t code ha ho he hw
    cases site with
    | startFailure => exact notices_startFailureTail code ha
    | stop => exact notices_stopTail code (ho rfl) (fun _ _ => ha) he (fun _ => ha) hw
  cases exec_step h with
  | driverStopped _ hin =>
    refine htail harmed hclosing (fun hm hf => ?_) fun _ hu => absurd hu.2 (by simp)
    exact (hexplained hm hf).imp_right fun hrun => .inl (hrun.resolve_right hunstopped)
  | driverStopFailed _ code hcode =>
    refine htail harmed hclosing (fun hm hf => ?_) fun heq => absurd heq hcode
    exact (hexplained hm hf).imp_right fun hrun => .inl (hrun.resolve_right hunstopped)

theorem join_notices (hfinished : s.publisher = .finished)
    (hS : noticeRules.Safe (Notice.Holds s w) (.joinPublisher :: rest)) :
    noticeRules.Safe (Notice.Holds { s.emit .joinPublisher with publisher := .joined } w) rest := by
  refine hS.tail (fun f hf _ => ?_) fun f hf => ?_
  · have hu := unmoved_emit s (e := .joinPublisher) (by simp)
    cases f with
    | still => exact .inr rfl
    | calm => exact fun _ => .inr rfl
    | explained =>
      intro hm hfail
      obtain hn | hrun | hun := hf hm hfail
      · exact .inl hn
      · rw [hfinished] at hrun
        cases hrun
      · exact .inr (.inr (hu.unstopped.mpr hun))
    | _ => exact hu.holds hf
  · simp only [noticeRules, List.mem_cons, List.not_mem_nil, or_false] at hf
    obtain rfl | rfl := hf
    exacts [.inr rfl, fun _ => .inr rfl]

theorem notJoinable_notices (hstill : Still s)
    (hS : noticeRules.Safe (Notice.Holds s w) (.joinPublisher :: rest)) :
    noticeRules.Safe (Notice.Holds s w) rest := by
  refine hS.tail (fun f hf _ => hf) fun f hf => ?_
  simp only [noticeRules, List.mem_cons, List.not_mem_nil, or_false] at hf
  obtain rfl | rfl := hf
  exacts [hstill, fun _ => hstill]

theorem setTerminal_notices (hS : noticeRules.Safe (Notice.Holds s w) (.setTerminal :: rest)) :
    noticeRules.Safe (Notice.Holds { s with terminal := true } w) rest := by
  refine hS.tail (fun f hf _ => ?_) fun f hf => ?_
  · cases f with
    | closing => rfl
    | poised => exact fun _ ht => by cases ht
    | _ => exact hf
  · simp only [noticeRules, List.mem_cons, List.not_mem_nil, or_false] at hf
    obtain rfl | rfl := hf
    exacts [rfl, fun _ ht => by cases ht]

theorem storeFailed_notices (hS : noticeRules.Safe (Notice.Holds s w) (.storeFailed :: rest)) :
    noticeRules.Safe (Notice.Holds { s with failed := true } w) rest := by
  refine hS.tail (fun f hf hlost => ?_) fun f hf => ?_
  · cases f with
    | flagged => rfl
    | explained => simp at hlost
    | _ => exact hf
  · simp only [noticeRules, List.mem_cons, List.not_mem_nil, or_false] at hf
    exact hf ▸ rfl

theorem clearNotifier_notices
    (hS : noticeRules.Safe (Notice.Holds s w) (.clearNotifier :: rest)) :
    noticeRules.Safe (Notice.Holds { s.emit .clearNotifier with notifier := false } w) rest := by
  have hclosing : s.terminal = true := hS.1 .closing (by simp)
  have hu := unmoved_emit s (e := .clearNotifier) (by simp)
  refine hS.tail (fun f hf hlost => ?_) (by simp)
  cases f with
  | armed => simp at hlost
  | poised => exact fun _ hopen => absurd (hclosing.symm.trans hopen) (by decide)
  | _ => exact hu.holds hf

theorem exec_notices {op : OwnerOp} (hop : ∀ config sink notifier, op ≠ .startGuard config sink notifier)
    (hL : Ledger s) (hsafe : rules.Safe (Holds s) (op :: rest))
    (hS : noticeRules.Safe (Notice.Holds s w) (op :: rest))
    (h : op.exec s rest r = some (s', ops)) : noticeRules.Safe (Notice.Holds s' w) ops := by
  have hn := hS.1
  have hunmoved : Unmoved s s' → (noticeRules.contract op).gives = [] →
      noticeRules.Safe (Notice.Holds s' w) rest := fun hu hgives =>
    hS.tail (fun f hf _ => hu.holds hf) fun f hf => by
      rw [hgives] at hf
      cases hf
  have hcalled : ∀ {e : Event}, (∀ status, e ≠ .stopReturned status) →
      ∀ f ∈ (noticeRules.contract op).needs, f.Holds (s.emit e) w := fun he f hf =>
    (unmoved_emit s he).holds (hn f hf)
  cases exec_step h with
  | rejected config sink notifier => exact absurd rfl (hop config sink notifier)
  | claim config sink notifier => exact absurd rfl (hop config sink notifier)
  | stopped | stopDriver | stopIdle => exact stopGuard_notices hL (hsafe.1 .settled (by simp)) hS h
  | driverStopped site | driverStopFailed site =>
    have hstopping : Holds s .stopping := by
      cases site <;> exact hsafe.1 .stopping (by simp)
    exact driverStopReturn_notices hstopping.2.2.2.1 hS h
  | noHandle config status =>
    have hn := hcalled (e := .create config status none) (by simp)
    exact notices_failedCreate (hn .armed (by simp)) (hn .calm (by simp)) (hn .answered (by simp))
  | badStatus config status handle =>
    have hn := hcalled (e := .create config status (some handle)) (by simp)
    have hrest := notices_failedCreate (hn .armed (by simp)) (hn .calm (by simp))
      (hn .answered (by simp))
    exact ⟨by simp, hrest.mono fun f hf => .inl ⟨hf, by simp⟩⟩
  | created config handle =>
    have hu := unmoved_emit s (e := .create config statusOk (some handle)) (by simp)
    refine ⟨fun f hf => ?_, by simp⟩
    have hneeds : f.Holds (s.emit (.create config statusOk (some handle))) w := hu.holds (hn f hf)
    cases f <;> exact hneeds
  | callbackSet =>
    have hn := hcalled (e := .setCallback s.handle statusOk) (by simp)
    simpa using ⟨hn .armed (by simp), hn .calm (by simp), hn .explained (by simp),
      hn .answered (by simp)⟩
  | callbackRefused code =>
    have hn := hcalled (e := .setCallback s.handle code) (by simp)
    exact notices_abandonStart (hn .armed (by simp)) (hn .calm (by simp))
  | spawned =>
    have hn := hcalled (e := .spawnPublisher true) (by simp)
    refine ⟨fun f hf => ?_, by simp⟩
    simp only [noticeRules, List.mem_cons, List.not_mem_nil, or_false] at hf
    obtain rfl | rfl | rfl := hf
    exacts [hn .armed (by simp), fun _ _ => .inr (.inl rfl), hn .answered (by simp)]
  | notSpawned =>
    have hn := hcalled (e := .spawnPublisher false) (by simp)
    exact notices_abandonStart (hn .armed (by simp)) (hn .calm (by simp))
  | driverStart =>
    have hu : Unmoved s { s.emit (.start s.handle) with
        startAttempted := true, driver := { s.driver with startCalled := true } } :=
      ⟨rfl, rfl, rfl, rfl, rfl, rfl, by simp [Unstopped, Core.emit]⟩
    exact ⟨fun f hf => hu.holds (hn f hf), by simp⟩
  | started =>
    have harmed : Notice.armed.Holds s w := hn _ (by simp)
    have hpoised : Notice.poised.Holds s w := fun _ _ => harmed
    simpa using ⟨hpoised, hn .explained (by simp), hn .answered (by simp)⟩
  | notStarted =>
    simpa using ⟨hn .armed (by simp), hn .explained (by simp), hn .answered (by simp)⟩
  | joined hfinished => exact join_notices hfinished hS
  | notJoinable hstill => exact notJoinable_notices hstill hS
  | setTerminal => exact setTerminal_notices hS
  | storeFailed => exact storeFailed_notices hS
  | notify =>
    exact ⟨by simp, (exchange_notices hS).mono fun f hf => .inl ⟨hf, by simp⟩⟩
  | silent => exact exchange_notices hS
  | clearNotifier => exact clearNotifier_notices hS
  | returnStart result => exact fun f hf => hcalled (by simp) f (List.mem_append_left _ hf)
  | returnStop result => exact fun f hf => hcalled (by simp) f (List.mem_cons_of_mem _ hf)
  | destroyCandidate | driverStop => exact hunmoved (unmoved_emit s (by simp)) rfl
  | clearSink =>
    exact hunmoved ⟨rfl, rfl, rfl, rfl, rfl, rfl,
      (unmoved_emit s (e := .clearSink) (by simp)).unstopped⟩ rfl
  | destroyHandle handle =>
    exact hunmoved ⟨rfl, rfl, rfl, rfl, rfl, rfl,
      (unmoved_emit s (e := .destroy (some handle)) (by simp)).unstopped⟩ rfl
  | noHandleLeft | storeAdmission | storeStopFailed | storePublisherStop | callNotifier =>
    exact hunmoved ⟨rfl, rfl, rfl, rfl, rfl, rfl, .rfl⟩ rfl

theorem notMem_afterStop (site : StopSite) (status : Status) :
    .callNotifier ∉ afterStop site status := by
  cases site <;> by_cases h : status = statusOk <;>
    simp [afterStop, startFailureTail, stopTail, finishPublisher, recordFailure, h]

theorem exec_calls {op : OwnerOp} (hrest : .callNotifier ∉ rest)
    (harmed : op = .exchangeNotified → s.notifier = true)
    (h : op.exec s rest r = some (s', ops)) : .callNotifier ∉ ops.tail ∧
      s'.notifications + ops.count .callNotifier + s.failureNotified.toNat =
        s.notifications + (op :: rest).count .callNotifier + s'.failureNotified.toNat := by
  have hzero : rest.count .callNotifier = 0 := List.count_eq_zero_of_not_mem hrest
  have htail : .callNotifier ∉ rest.tail := fun hmem => hrest (List.mem_of_mem_tail hmem)
  have hafter := fun site status =>
    List.count_eq_zero_of_not_mem (notMem_afterStop site status)
  have hafter' : ∀ site status, .callNotifier ∉ (afterStop site status).tail :=
    fun site status hmem => notMem_afterStop site status (List.mem_of_mem_tail hmem)
  have hstop : stopTail statusOk = afterStop .stop statusOk := rfl
  cases exec_step h with
  | notify hfirst => simp [hfirst, hzero, hrest]
  | silent hsilent =>
    have hflag : s.failureNotified = true := hsilent.resolve_right (by simp [harmed rfl])
    simp [hflag, hzero, htail]
  | callNotifier => simp [hzero, htail]
  | stopIdle => exact ⟨hafter' .stop statusOk, by simp [hstop, hafter, hzero]⟩
  | driverStopped | driverStopFailed =>
    exact ⟨hafter' _ _, by simp [hafter, hzero, Core.emit, Core.incident]⟩
  | _ =>
    first
    | exact ⟨htail, by simp [hzero, Core.emit]⟩
    | simp [hzero, Core.emit, abandonStart, recordFailure]

end Owner

/-! ### The publisher -/

def PublisherPc.calls : PublisherPc P → Nat
  | .callNotifier => 1
  | .record _ then_ => then_.calls
  | _ => 0

@[simp] theorem calls_recordIf (s : Core P) (accesses : List Metrics.Access)
    (then_ : PublisherPc P) : (recordIf s accesses then_).calls = then_.calls := by
  unfold recordIf
  split <;> rfl

section Publisher
variable {s s' : Core P} {w : Watch} {t : Bool} {a : PublisherAct} {pc pc' : PublisherPc P}

theorem publishLoop_calls (harmed : s.notifier = true) (h : publishLoop t a s pc = some (s', pc')) :
    s'.notifications + pc'.calls + s.failureNotified.toNat =
      s.notifications + pc.calls + s'.failureNotified.toNat := by
  cases publishLoop_step h with
  | notify hfirst => simp [PublisherPc.calls, hfirst]
  | leave hsilent =>
    have hflag : s.failureNotified = true := hsilent.resolve_right (by simp [harmed])
    simp [PublisherPc.calls, hflag]
  | _ => simp [PublisherPc.calls, Core.incident]

theorem publishLoop_notices (hd : DrainPc s pc) (h : publishLoop t a s pc = some (s', pc')) :
    (s.failed = true → s'.failed = true) ∧
      (s.failureNotified = true → s'.failureNotified = true) ∧
      (s'.failureNotified = true → s.failureNotified = true ∨ s'.failed = true) ∧
      (s'.publisher = s.publisher ∨ s'.failureNotified = true ∨ pc.calls = 1 ∨
        s'.publisherStop = true ∧ s'.failed = s.failed ∧
          (watchPublisher s pc w).missed = (w.missed || s.failed)) := by
  cases publishLoop_step h with
  | drained read hempty =>
    exact ⟨id, id, .inl, .inr (.inr (.inr ⟨hd, rfl, by simp [watchPublisher, hempty]⟩))⟩
  | notify | leave => exact ⟨id, fun _ => rfl, fun _ => .inr hd, by simp⟩
  | callNotifier => exact ⟨id, id, .inl, .inr (.inr (.inl rfl))⟩
  | storeFailed => exact ⟨fun _ => rfl, id, .inl, .inl rfl⟩
  | _ => exact ⟨id, id, .inl, .inl rfl⟩

theorem watchPublisher_frame (s : Core P) (pc : PublisherPc P) (w : Watch) :
    (watchPublisher s pc w).claiming = w.claiming ∧
      (watchPublisher s pc w).notifier = w.notifier ∧
      ((watchPublisher s pc w).missed = false → w.missed = false) := by
  unfold watchPublisher
  split
  · split
    · simp +contextual
    · exact ⟨rfl, rfl, id⟩
  · exact ⟨rfl, rfl, id⟩

end Publisher

/-! ### The books of the notifier -/

/-- `booked`: `failure_notified_` counts the calls made and owed. `ended`: the publisher has
left with the failure reported, or because it was told to stop. -/
structure NoticeOk (s : Core P) (ops : List OwnerOp) (pc : PublisherPc P) (w : Watch) : Prop where
  safe : noticeRules.Safe (Notice.Holds s w) ops
  single : .callNotifier ∉ ops.tail
  booked : s.notifications + ops.count .callNotifier + pc.calls = s.failureNotified.toNat
  calling : pc.calls ≠ 0 → s.publisher = .running
  armed : s.publisher = .running → s.notifier = true
  ended : s.publisher = .finished ∨ s.publisher = .joined →
    s.failureNotified = true ∨ s.publisherStop = true
  failed : s.failureNotified = true → s.failed = true

section Steps
variable {s s' : Core P} {w : Watch} {rest ops : List OwnerOp} {r : Reply} {pc pc' : PublisherPc P}

theorem exec_notified {op : OwnerOp} (h : op.exec s rest r = some (s', ops)) :
    (s.failureNotified = true → s'.failureNotified = true) ∧
      (s'.failureNotified = true → s.failureNotified = true ∨ op = .exchangeNotified) := by
  cases exec_step h with
  | notify | silent => exact ⟨fun _ => rfl, fun _ => .inr rfl⟩
  | _ => exact ⟨id, .inl⟩

theorem exec_armed {op : OwnerOp} (h : op.exec s rest r = some (s', ops))
    (hrun : s'.publisher = .running) : s'.notifier = s.notifier ∧
        (s.publisher = .running ∨ op = .spawnPublisher) ∨
      s.publisher = .running ∧ (op = .clearNotifier ∨ s.startClaimed = false) := by
  cases exec_step h with
  | claim config sink notifier hclaim => exact .inr ⟨hrun, .inr hclaim⟩
  | spawned => exact .inl ⟨rfl, .inr rfl⟩
  | joined => cases hrun
  | clearNotifier => exact .inr ⟨hrun, .inl rfl⟩
  | _ => exact .inl ⟨rfl, .inl hrun⟩

theorem NoticeOk.exec {op : OwnerOp} {w' : Watch} (hL : Ledger s)
    (h : NoticeOk s (op :: rest) pc w) (hsafe : noticeRules.Safe (Notice.Holds s' w') ops)
    (he : op.exec s rest r = some (s', ops)) : NoticeOk s' ops pc w' := by
  obtain ⟨hS, hsingle, hbooked, hcalling, harmed, hended, hfailed⟩ := h
  obtain ⟨hflag, hstop, hpublisher, -⟩ := exec_flags he
  obtain ⟨hkept, hnew⟩ := exec_notified he
  have hexchange : op = .exchangeNotified → s.notifier = true := by
    rintro rfl
    exact hS.1 .armed (by simp)
  have hsingle : .callNotifier ∉ rest := hsingle
  obtain ⟨hsingle', hbooks⟩ := exec_calls hsingle hexchange he
  refine ⟨hsafe, hsingle', by omega, fun hc => ?_, fun hrun => ?_, fun hfin => ?_, fun hn => ?_⟩
  · obtain heq | hrun | ⟨hfin, -⟩ := hpublisher
    · exact heq.trans (hcalling hc)
    · exact hrun
    · exact absurd ((hcalling hc).symm.trans hfin) nofun
  · obtain ⟨hsame, hrun | rfl⟩ | ⟨hrun, rfl | hclaim⟩ := exec_armed he hrun
    · exact hsame.trans (harmed hrun)
    · exact hsame.trans (hS.1 .armed (by simp))
    · -- the notifier is cleared after the join
      have hstill : Still s := hS.1 .still (by simp)
      simp [Still, hrun] at hstill
    · have hnone := (hL.unclaimed hclaim).2.1
      exact absurd (hrun.symm.trans hnone) nofun
  · have hbefore : s.publisher = .finished ∨ s.publisher = .joined := by
      obtain heq | hrun | ⟨hfin', -⟩ := hpublisher
      · exact heq ▸ hfin
      · simp [hrun] at hfin
      · exact .inl hfin'
    exact (hended hbefore).imp hkept hstop
  · obtain hold | rfl := hnew hn
    · exact hflag (hfailed hold)
    · exact hflag (hS.1 .flagged (by simp))

theorem watchOwner_notifier {a : OwnerAct} {l : OwnerLocal}
    (h : (watchOwner a s l w).notifier = true) : w.notifier = true := by
  unfold watchOwner at h
  split at h
  · split at h
    · exact h
    · exact (Bool.and_eq_true_iff.mp h).1
  · exact h
  · exact h

theorem NoticeOk.owner {a : OwnerAct} {l l' : OwnerLocal} (hL : Ledger s)
    (hrules : rules.Safe (Holds s) l.ops) (h : NoticeOk s l.ops pc w)
    (hw : (watchOwner a s l w).notifier = true) (hstep : ownerStep a s l = some (s', l')) :
    NoticeOk s' l'.ops pc (watchOwner a s l w) := by
  obtain ⟨ops, d⟩ := l
  cases ops with
  | nil =>
    have hends : ∀ f ∈ noticeRules.ends, f.Holds s { w with claiming := false } := by
      intro f hf
      have hheld := h.safe f hf
      simp only [noticeRules, List.mem_cons, List.not_mem_nil, or_false] at hf
      obtain rfl | rfl | rfl := hf <;> exact hheld
    have hcalm : Notice.calm.Holds s { w with claiming := false } := nofun
    have hp := hends .poised (by simp)
    have hx := hends .explained (by simp)
    have ha := hends .answered (by simp)
    cases d <;> cases a <;> cases hstep
    · exact { h with
        safe := by simp [watchOwner, hcalm, hp, hx, ha]
        single := by simp
        booked := by simpa using h.booked }
    all_goals
      exact { h with
        safe := by simp [watchOwner, hp, hx, ha]
        single := by simp
        booked := by simpa using h.booked }
  | cons op rest =>
    cases a with
    | reply r =>
      obtain ⟨⟨t, ops'⟩, he, hx⟩ := Option.map_eq_some_iff.mp hstep
      cases hx
      refine h.exec hL ?_ he
      cases op with
      | startGuard config sink notifier => exact startGuard_notices hL hw h.safe he
      | _ => exact exec_notices (fun _ _ _ heq => by cases heq) hL hrules h.safe he
    | start => cases d <;> cases hstep
    | stop => cases d <;> cases hstep
    | destruct => cases d <;> cases hstep

theorem NoticeOk.publisher {t : Bool} {a : PublisherAct} (hrun : s.publisher = .running)
    (hd : DrainOk s pc) (hd' : DrainOk s' pc') (h : NoticeOk s ops pc w)
    (hstep : publishLoop t a s pc = some (s', pc')) :
    NoticeOk s' ops pc' (watchPublisher s pc w) := by
  obtain ⟨hS, hsingle, hbooked, hcalling, harmed, hended, hfailed⟩ := h
  obtain ⟨hf, hdriver⟩ := publishLoop_frame hstep
  obtain ⟨hflag, hkept, hnew, hleft⟩ := publishLoop_notices (w := w) hd.pc hstep
  obtain ⟨hclaiming, -, hmissed⟩ := watchPublisher_frame s pc w
  have hbooks := publishLoop_calls (harmed hrun) hstep
  have hstarted : s'.publisher = s.publisher ∨ s'.publisher = .finished :=
    (publishLoop_publisher hrun hstep).imp_right And.right
  have hunstopped : Unstopped s' ↔ Unstopped s := by simp only [Unstopped, hf.events, hdriver]
  have hcalled : pc.calls = 1 → s'.failureNotified = true := by
    intro hc
    refine hkept ?_
    cases hn : s.failureNotified with
    | true => rfl
    | false =>
      simp only [hn, Bool.toNat_false] at hbooked
      omega
  have hstill : ¬ Still s := by simp [Still, hrun]
  refine ⟨hS.mono fun f hf' => ?_, hsingle, by omega, fun hc => ?_, fun _ => ?_, fun hfin => ?_,
    fun hn => ?_⟩
  · cases f with
    | armed => exact hf.notifier.trans hf'
    | poised =>
      intro hc ht
      rw [hf.startClaimed] at hc
      rw [hf.terminal] at ht
      exact hf.notifier.trans (hf' hc ht)
    | closing => exact hf.terminal.trans hf'
    | still => exact absurd hf' hstill
    | calm => exact fun hc => absurd (hf' (hclaiming ▸ hc)) hstill
    | flagged => exact hflag hf'
    | explained =>
      intro hm hfail
      obtain heq | hn | hc | ⟨-, hsame, hmiss⟩ := hleft
      · exact .inr (.inl (heq.trans hrun))
      · exact .inl hn
      · exact .inl (hcalled hc)
      · simp [hmiss, ← hsame, hfail] at hm
    | answered => exact fun hu => hkept (hf' (hunstopped.mp hu))
  · obtain heq | hfin := hstarted
    · exact heq.trans hrun
    · rw [hd'.finished (.inl hfin)] at hc
      exact absurd rfl hc
  · exact hf.notifier.trans (harmed hrun)
  · obtain heq | hn | hc | ⟨hstop, -⟩ := hleft
    · simp [heq, hrun] at hfin
    · exact .inl hn
    · exact .inl (hcalled hc)
    · exact .inr hstop
  · exact (hnew hn).elim (fun hold => hflag (hfailed hold)) id

theorem sampleTrampoline_notices {a : ProducerAct P} {l l' : ProducerPc P}
    (h : sampleTrampoline a s l = some (s', l')) :
    s'.failureNotified = s.failureNotified ∧ s'.notifications = s.notifications ∧
      (s.failed = true → s'.failed = true) ∧
      (s'.failed = true → s.failed = true ∨ l = .storeFailed) := by
  cases sampleTrampoline_step h with
  | storeFailed => exact ⟨rfl, rfl, fun _ => rfl, fun _ => .inr rfl⟩
  | _ => exact ⟨rfl, rfl, id, .inl⟩

theorem NoticeOk.running (hL : Ledger s) (hq : DriverQuiet s) (hin : s.driver.inCallback = true)
    (hstarted : s.startAttempted = true) (h : NoticeOk s ops pc w) :
    s.failureNotified = true ∨ s.publisher = .running ∨ Unstopped s := by
  have hrunning : s.driver.stoppedOk = false := by
    refine Bool.eq_false_iff.mpr fun hs => ?_
    exact absurd (hin.symm.trans (hq.inCallback hs)) (by decide)
  have hleft : s.publisher = .finished ∨ s.publisher = .joined →
      s.failureNotified = true ∨ s.publisher = .running ∨ Unstopped s := by
    intro hfin
    obtain hn | hstop := h.ended hfin
    · exact .inl hn
    · obtain hret | ⟨-, hidle⟩ := hL.publisherStop hstop
      · exact .inr (.inr ⟨hret, hrunning⟩)
      · exact absurd (hstarted.symm.trans hidle) (by decide)
  cases hp : s.publisher with
  | none => exact absurd (hstarted.symm.trans (hL.unspawned hp)) (by decide)
  | running => exact .inr (.inl rfl)
  | finished => exact hp ▸ hleft (.inl hp)
  | joined => exact hp ▸ hleft (.inr hp)

theorem NoticeOk.producer {a : ProducerAct P} {l l' : ProducerPc P} (hL : Ledger s)
    (hq : DriverQuiet s) (hin : ProducerOk s l) (hr : Arrived s l) (h : NoticeOk s ops pc w)
    (hstep : sampleTrampoline a s l = some (s', l')) : NoticeOk s' ops pc w := by
  have hrunning := h.running hL hq
  obtain ⟨hS, hsingle, hbooked, hcalling, harmed, hended, hfailed⟩ := h
  obtain ⟨hf, hpublisher⟩ := sampleTrampoline_frame hstep
  obtain ⟨hsame, hcount, hkept, hnew⟩ := sampleTrampoline_notices hstep
  have hunstopped : Unstopped s' ↔ Unstopped s := by
    simp only [Unstopped, hf.events, hf.stoppedOk]
  have hfails : l = .storeFailed →
      s.failureNotified = true ∨ s.publisher = .running ∨ Unstopped s := by
    rintro rfl
    exact hrunning hin (hL.startCalled ▸ hr.unstarted.resolve_right fun hidle => nomatch hidle.2)
  refine ⟨hS.mono fun f hf' => ?_, hsingle, by rw [hcount, hsame]; exact hbooked,
    fun hc => hpublisher.trans (hcalling hc), fun hrun => ?_, fun hfin => ?_, fun hn => ?_⟩
  · cases f with
    | armed => exact hf.notifier.trans hf'
    | poised =>
      intro hc ht
      rw [hf.startClaimed] at hc
      rw [hf.terminal] at ht
      exact hf.notifier.trans (hf' hc ht)
    | closing => exact hf.terminal.trans hf'
    | still => exact hf'.imp hpublisher.trans hpublisher.trans
    | calm => exact fun hc => (hf' hc).imp hpublisher.trans hpublisher.trans
    | flagged => exact hkept hf'
    | explained =>
      intro hm hfail
      rw [hsame, hpublisher, hunstopped]
      exact (hnew hfail).elim (hf' hm) hfails
    | answered => exact fun hu => hsame.trans (hf' (hunstopped.mp hu))
  · exact hf.notifier.trans (harmed (hpublisher.symm.trans hrun))
  · rw [hpublisher] at hfin
    rw [hsame, hf.publisherStop]
    exact hended hfin
  · exact hkept (hfailed (hsame.symm.trans hn))

end Steps

theorem watchNotices_notifier {e : Σ i, Act P i} {s : State P} {w : Watch}
    (h : (watchNotices e s w).notifier = true) : w.notifier = true := by
  obtain ⟨i, a⟩ := e
  cases i with
  | owner => exact watchOwner_notifier h
  | producer => exact h
  | publisher => exact (watchPublisher_frame s.shared (s.locals .publisher) w).2.1 ▸ h

section Reached
variable [Inhabited P] {t : Bool}

theorem reachable_notices {x : State P × Watch} (h : (noticeSystem P t).Reachable x)
    (hn : x.2.notifier = true) :
    NoticeOk x.1.shared (x.1.locals .owner : OwnerLocal).ops (x.1.locals .publisher) x.2 := by
  let J (s : State P) (w : Watch) : Prop := w.notifier = true →
    NoticeOk s.shared (s.locals .owner : OwnerLocal).ops (s.locals .publisher) w
  suffices hJ : J x.1 x.2 from hJ hn
  refine System.Reachable.observe (M := (threads P t).toSystem) (O := noticeWatch)
    (Q := fun _ => True) (P := J) ?_ (fun _ _ _ _ _ _ => trivial) ?_ (fun _ b => nomatch b) h trivial
  · intro _
    refine ⟨?_, List.not_mem_nil, rfl, fun hc => absurd rfl hc, nofun, ?_, nofun⟩
    · intro f hf
      simp only [noticeRules, List.mem_cons, List.not_mem_nil, or_false] at hf
      obtain rfl | rfl | rfl := hf
      · exact nofun
      · exact fun _ hfail => by cases hfail
      · rintro ⟨⟨status, hmem⟩, -⟩
        cases hmem
    · rintro (hp | hp) <;> cases hp
  · rintro s ⟨i, a⟩ u w hs hnext - hJ hw
    have hold := hJ (watchNotices_notifier hw)
    have hu : (threads P t).Reachable u := hs.next hnext
    obtain ⟨s', l', hst, rfl⟩ := Threads.next_eq_some hnext
    obtain ⟨hL, hok⟩ := reachable_owner hs
    cases i with
    | owner => exact hold.owner hL hok.safe hw hst
    | producer =>
      exact hold.producer hL (reachable_drain hs).1 (reachable_dispatch hs).2.1
        (reachable_arrived hs) hst
    | publisher =>
      obtain ⟨hrun, hstep⟩ := threads_publisher hst
      exact hold.publisher hrun (reachable_drain hs).2 (reachable_drain hu).2 hstep

def Returning (x : State P × Watch) : Prop :=
  (∃ result, (x.1.locals .owner : OwnerLocal).ops = [.returnStop result]) ∨
    x.2.claiming = true ∧ (x.1.locals .owner : OwnerLocal).ops = [.returnStart false]

omit [Inhabited P] in
theorem NoticeOk.returning {x : State P × Watch} (hreturning : Returning x)
    (h : NoticeOk x.1.shared (x.1.locals .owner : OwnerLocal).ops (x.1.locals .publisher) x.2) :
    Still x.1.shared ∧ Notice.explained.Holds x.1.shared x.2 ∧
      Notice.answered.Holds x.1.shared x.2 ∧
      (x.1.locals .owner : OwnerLocal).ops.count .callNotifier = 0 := by
  have hS := h.safe
  obtain ⟨result, hops⟩ | ⟨hclaiming, hops⟩ := hreturning
  · rw [hops] at hS ⊢
    exact ⟨hS.1 .still (by simp), hS.1 .explained (by simp), hS.1 .answered (by simp), rfl⟩
  · rw [hops] at hS ⊢
    have hcalm : Notice.calm.Holds x.1.shared x.2 := hS.1 .calm (by simp)
    exact ⟨hcalm hclaiming, hS.1 .explained (by simp), hS.1 .answered (by simp), rfl⟩

structure NotifiedOnce (x : State P × Watch) : Prop where
  atMostOnce : x.1.shared.notifications ≤ 1
  iff_failed : Returning x → (0 < x.1.shared.notifications ↔ x.1.shared.failed = true)

/-- A failure is notified at most once, and once before the return unless the publisher leaves by
its stop check, which does not look at `failed_` again. -/
theorem failure_notified {x : State P × Watch} (h : (noticeSystem P t).Reachable x)
    (hnotifier : x.2.notifier = true) :
    x.1.shared.notifications ≤ 1 ∧ (x.2.missed = false → NotifiedOnce x) := by
  have hok := reachable_notices h hnotifier
  have hbooked := hok.booked
  have hle := Bool.toNat_le x.1.shared.failureNotified
  have honce : x.1.shared.notifications ≤ 1 := by omega
  refine ⟨honce, fun hseen => ⟨honce, fun hreturning => ?_⟩⟩
  obtain ⟨hstill, hexplained, hanswered, hcount⟩ := hok.returning hreturning
  have hidle : (x.1.locals .publisher : PublisherPc P).calls = 0 := by
    by_contra hne
    obtain hp | hp := hstill <;> exact absurd ((hok.calling hne).symm.trans hp) nofun
  rw [hcount, hidle] at hbooked
  constructor
  · intro hpos
    refine hok.failed ?_
    cases hn : x.1.shared.failureNotified with
    | true => rfl
    | false =>
      rw [hn, Bool.toNat_false] at hbooked
      omega
  · intro hfail
    have hn : x.1.shared.failureNotified = true := by
      obtain hn | hrun | hu := hexplained hseen hfail
      · exact hn
      · obtain hp | hp := hstill <;> exact absurd (hrun.symm.trans hp) nofun
      · exact hanswered hu
    rw [hn, Bool.toNat_true] at hbooked
    omega

end Reached

/-! ### Two runs -/

/-- `Start` succeeds; the publisher has seen `failed_` unset and the ring empty when the
callback delivers a null sample, and then `Stop` is called and stops the driver. -/
def nullSampleRun : List (Σ i, Act Unit i) :=
  ownerDoes [.start ⟨200, 8, 1, false⟩ true true, .reply .done,
    .reply (.created statusOk (some 7)), .reply (.status statusOk), .reply .done,
    .reply (.spawned true), .reply .done, .reply (.status statusOk), .reply .done] ++
  publisherDoes [.step, .step, .step] ++
  producerDoes [.callback none 11, .step, .step, .step] ++
  ownerDoes [.stop, .reply .done, .reply .done, .reply (.status statusOk), .reply .done]

def joinRun : List (Σ i, Act Unit i) :=
  ownerDoes [.reply .done, .reply .done, .reply .done, .reply .done]

def reportedRun : List ((Σ i, Act Unit i) ⊕ Empty) :=
  (nullSampleRun ++ publisherDoes [.step] ++ ownerDoes [.reply .done] ++
    publisherDoes [.step, .step, .step, .step] ++ joinRun).map .inl

def overlookedRun : List ((Σ i, Act Unit i) ⊕ Empty) :=
  (nullSampleRun ++ ownerDoes [.reply .done] ++ publisherDoes [.step, .step] ++ joinRun).map .inl

def noticesEnd (run : List ((Σ i, Act Unit i) ⊕ Empty)) : Option (State Unit × Watch) :=
  (noticeSystem Unit false).run run (noticeSystem Unit false).start

theorem failure_notified_reported :
    Returning ((noticesEnd reportedRun).get rfl) ∧ NotifiedOnce ((noticesEnd reportedRun).get rfl) :=
  ⟨.inl ⟨true, rfl⟩, (failure_notified (System.reachable_get _) rfl).2 rfl⟩

/-- `Stop` returns true from a failed core that never called its notifier. -/
theorem failure_overlooked :
    ¬ ∀ x : State Unit × Watch, (noticeSystem Unit false).Reachable x → x.2.notifier = true →
      NotifiedOnce x := by
  intro hclaim
  have hreached : (noticeSystem Unit false).Reachable ((noticesEnd overlookedRun).get rfl) :=
    System.reachable_get _
  have honce := (hclaim _ hreached rfl).iff_failed (.inl ⟨true, rfl⟩)
  exact absurd (honce.mpr rfl) (by decide)

end RoboBaton.Imu
