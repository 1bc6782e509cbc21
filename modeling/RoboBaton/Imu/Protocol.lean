import RoboBaton.Imu.Owner

/-! Every instruction of `Start` and `Stop` keeps the ledger, and leaves code behind that
finds what it relies on. The other two threads do not interfere with either. -/

namespace RoboBaton.Imu
open Trace
variable {P : Type}

/-! ### The code the jumps lead to -/

section Programs
variable {known : Fact → Prop}

theorem safe_abandonStart (hp : known .quiet) (hs : known .stopped) :
    rules.Safe known abandonStart := by
  simp [abandonStart, recordFailure, hp, hs]

theorem safe_startFailureTail (status : Status) (hs : known .stopped) (hd : known .drainable)
    (hf : status ≠ statusOk → known .failing) :
    rules.Safe known (startFailureTail status) := by
  by_cases h : status = statusOk <;>
    simp_all [startFailureTail, finishPublisher, recordFailure]

theorem safe_stopTail (status : Status) (ht : known .terminal) (hs : known .stopped)
    (hd : known .drainable) (hf : status ≠ statusOk → known .failing)
    (hv : status = statusOk → known (.verdict true)) :
    rules.Safe known (stopTail status) := by
  by_cases h : status = statusOk <;>
    simp_all [stopTail, finishPublisher, recordFailure]

end Programs

/-! ### One instruction -/

def Keeps (P : Type) (op : OwnerOp) : Prop :=
  ∀ (s s' : Core P) (rest ops : List OwnerOp) (r : Reply), Ledger s →
    rules.Safe (Holds s) (op :: rest) → op.exec s rest r = some (s', ops) →
    Ledger s' ∧ rules.Safe (Holds s') ops

theorem Ledger.not_destroyed {s : Core P} (hL : Ledger s) (hn : NoCreate s.events) (h : Handle) :
    .destroy (some h) ∉ s.events := by
  intro hd
  obtain ⟨pre, post, hsplit⟩ := List.append_of_mem hd
  obtain ⟨⟨k, -, ⟨config, status, hk⟩, -⟩, -⟩ := hL.ordered pre _ post hsplit
  exact hn config status (some k) (hsplit ▸ List.mem_append_left _ hk)

theorem keeps_startGuard (config : CoreConfig) (sink notifier : Bool) :
    Keeps P (.startGuard config sink notifier) := by
  intro s s' rest ops r hL hS h
  have hset : Holds s .settled := hS.1 _ (by simp)
  cases exec_step h with
  | rejected _ _ _ hguard =>
    have hclosed : Holds s .closed := hguard
    exact ⟨hL, by simp [hclosed, hset]⟩
  | claim _ _ _ hc ht =>
    have hvirgin := hL.unclaimed hc
    have hfirst : ¬ Returned s.events := fun hr => by simpa [hc, ht] using hL.closed hr
    constructor
    · exact { hL with unclaimed := (fun hc' => by cases hc'), closed := fun _ => .inl rfl }
    · simp [Holds, hvirgin, hfirst, ht]

theorem keeps_create (config : CoreConfig) : Keeps P (.create config) := by
  intro s s' rest ops r hL hS h
  have hn : ∀ f ∈ (rules.contract (.create config)).needs, Holds s f := hS.1
  have hc : Holds s .closed := hn _ (by simp)
  have ho : s.terminal = false := hn .opened (by simp)
  have hfirst : ¬ Returned s.events := hn .first (by simp)
  obtain ⟨hnone, hpub, hatt, hno⟩ := hn .virgin (by simp)
  have hL' := hL.create ⟨hnone, hpub, hatt, hno⟩ hc ho hfirst config
  have hclaimed : s.startClaimed = true := hc.resolve_right (by simp [ho])
  cases exec_step h with
  | noHandle _ status =>
    refine ⟨hL' status none, ?_⟩
    simp [Holds, Core.emit, hpub, hatt, hnone, recordFailure]
  | badStatus _ status k =>
    refine ⟨hL' status (some k), ?_⟩
    simp [Holds, Core.emit, hpub, hatt, hnone, recordFailure, hfirst, hL.not_destroyed hno k]
  | created _ k =>
    have hcreated : Created (s.events ++ [.create config statusOk (some k)]) k := by simp
    have hnostop : ∀ r, .returnStop r ∉ (s.emit (.create config statusOk (some k))).events :=
      fun r hr => hfirst (.inr ⟨r, by simpa [Core.emit] using hr⟩)
    refine ⟨(hL' statusOk (some k)).storeHandle hclaimed hnostop hcreated
      (by simpa [Core.emit] using hL.not_destroyed hno k), ?_⟩
    simp [Holds, Core.emit, hpub, hatt, hfirst, hclaimed, ho]

theorem keeps_destroyCandidate (k : Handle) : Keeps P (.destroyCandidate k) := by
  intro s s' rest ops r hL hS h
  have hn : ∀ f ∈ (rules.contract (.destroyCandidate k)).needs, Holds s f := hS.1
  cases r <;> cases h
  obtain ⟨hnone, hcr, hd⟩ := hn (.candidate k) (by simp)
  have hfirst : ¬ Returned s.events := hn .first (by simp)
  have hu : Usable s.events (some k) := ⟨k, rfl, hcr, hd, fun r hr => hfirst (.inr ⟨r, hr⟩)⟩
  have he : { s.emit (.destroy (some k)) with handle := none } = s.emit (.destroy (some k)) := by
    rw [← hnone]; rfl
  refine ⟨he ▸ hL.destroy hu (hn .quiet (by simp)) (hn .stopped (by simp)),
    hS.tail (fun f hf hl => ?_) (by simp)⟩
  cases f <;> simp_all [Holds, Settled, Core.emit]

theorem keeps_setCallback : Keeps P .setCallback := by
  intro s s' rest ops r hL hS h
  have hn : ∀ f ∈ (rules.contract .setCallback).needs, Holds s f := hS.1
  have hp : Holds s .prepared := hn _ (by simp)
  have hc : Holds s .closed := hn _ (by simp)
  have ho : Holds s .opened := hn _ (by simp)
  have hf : Holds s .first := hn _ (by simp)
  cases exec_step h with
  | callbackSet =>
    refine ⟨hL.setCallback hp statusOk, ?_⟩
    simp_all [Holds, Core.emit]
  | callbackRefused code =>
    exact ⟨hL.setCallback hp code, safe_abandonStart (.inl hp.2.1) fun ha =>
      absurd (hp.2.2.symm.trans ha) (by decide)⟩

theorem keeps_spawnPublisher : Keeps P .spawnPublisher := by
  intro s s' rest ops r hL hS h
  have hn : ∀ f ∈ (rules.contract .spawnPublisher).needs, Holds s f := hS.1
  have hp : Holds s .prepared := hn _ (by simp)
  have hc : Holds s .closed := hn _ (by simp)
  have ho : Holds s .opened := hn _ (by simp)
  have hf : Holds s .first := hn _ (by simp)
  have hL' := hL.spawnPublisher hp hc ho
  cases exec_step h with
  | spawned =>
    refine ⟨hL'.1, ?_⟩
    simp_all [Holds, Core.emit]
  | notSpawned =>
    exact ⟨hL'.2, safe_abandonStart (.inl hp.2.1) fun ha =>
      absurd (hp.2.2.symm.trans ha) (by decide)⟩

theorem keeps_driverStart : Keeps P .driverStart := by
  intro s s' rest ops r hL hS h
  have hn : ∀ f ∈ (rules.contract .driverStart).needs, Holds s f := hS.1
  cases r <;> cases h
  have hp : Holds s .spawned := hn _ (by simp)
  have hc : Holds s .closed := hn _ (by simp)
  have ho : Holds s .opened := hn _ (by simp)
  have hf : Holds s .first := hn _ (by simp)
  have hns : ¬ Stopped s.events := fun hs => absurd (hp.2.2.symm.trans (hL.stopped hs)) (by decide)
  refine ⟨hL.driverStart hp ho, ?_⟩
  simp_all [Holds, Core.emit]

theorem keeps_driverStartReturn : Keeps P .driverStartReturn := by
  intro s s' rest ops r hL hS h
  have hn : ∀ f ∈ (rules.contract .driverStartReturn).needs, Holds s f := hS.1
  have hp : Holds s .stoppable := hn _ (by simp)
  have hc : Holds s .closed := hn _ (by simp)
  have ho : Holds s .opened := hn _ (by simp)
  have hf : Holds s .first := hn _ (by simp)
  cases exec_step h <;> exact ⟨hL, by simp_all [Holds, Settled]⟩

theorem keeps_stopGuard : Keeps P .stopGuard := by
  intro s s' rest ops r hL hS h
  obtain ⟨hterm, hopen⟩ := hS.1 .settled (by simp)
  have hclose : s.terminal = false → Ledger { s with terminal := true } := fun ht =>
    { hL with
      closed := fun _ => .inr rfl
      stopReturn := fun r hr => absurd (hL.stopReturn r hr).1 (by simp [ht])
      publisherStop := fun hp => (hL.publisherStop hp).imp_right fun h => ⟨rfl, h.2⟩ }
  cases exec_step h with
  | stopped ht hh =>
    obtain ⟨-, hq, hst⟩ := hterm ht
    refine ⟨hL, ?_⟩
    simp only [Holds, ht, hh, hq, rules, Discipline.Rules.safe_cons, Discipline.Rules.safe_nil]
    simpa using hst
  | stopDriver hsome hatt =>
    have ht : s.terminal = false := Bool.eq_false_iff.mpr fun ht => hsome (hterm ht).1
    refine ⟨hclose ht, ?_⟩
    simp [Holds, (hopen ht).1, Option.isSome_iff_ne_none.mpr hsome, hatt]
  | stopIdle hlive hidle =>
    have ht : s.terminal = false := Bool.eq_false_iff.mpr fun ht => hlive ht (hterm ht).1
    obtain ⟨hns, hatt⟩ := hopen ht
    have hidle' : s.startAttempted = false := by
      rcases hidle with hnone | hidle
      · rw [hatt, hnone]
        rfl
      · exact hidle
    have hnf : s.stopFailed = false := by
      by_contra hf
      exact hns (hL.stopReturned (hL.stopFailed (Bool.eq_true_of_not_eq_false hf)))
    exact ⟨hclose ht, safe_stopTail _ rfl (fun hs => absurd (hidle'.symm.trans hs) (by decide))
      (.inr ⟨rfl, hidle'⟩) (fun hne => (hne rfl).elim) fun _ => hnf⟩

theorem keeps_driverStop : Keeps P .driverStop := by
  intro s s' rest ops r hL hS h
  have hn : ∀ f ∈ (rules.contract .driverStop).needs, Holds s f := hS.1
  cases r <;> cases h
  have hp : Holds s .stoppable := hn _ (by simp)
  have hnr : ¬ StopReturned s.events := fun hr => hp.2.2 (hL.stopReturned hr)
  have hnf : s.stopFailed = false := by
    by_contra hf
    exact hnr (hL.stopFailed (Bool.eq_true_of_not_eq_false hf))
  refine ⟨hL.driverStop hp, hS.tail (fun f hf hl => ?_) ?_⟩
  · cases f <;> simp_all [Holds, Core.emit]
  · simp_all [Holds, Core.emit]

theorem keeps_driverStopReturn (site : StopSite) : Keeps P (.driverStopReturn site) := by
  intro s s' rest ops r hL hS h
  have hn : ∀ f ∈ (rules.contract (.driverStopReturn site)).needs, Holds s f := hS.1
  have hst : Holds s .stopping := hn _ (by cases site <;> simp)
  have hterm : site = .stop → Holds s .terminal := by
    rintro rfl
    exact hn _ (by simp)
  have hL' := hL.driverStopReturn hst
  have hn := hL.no_returnStop hst.1
  have hsafe : ∀ (code : Status) (t : Core P), t.events = s.events ++ [.stopReturned code] →
      t.terminal = s.terminal → t.stopFailed = s.stopFailed →
      rules.Safe (Holds t) (afterStop site code) := by
    intro code t he hterminal hfailed
    have hdone : StopReturned t.events := by simp [he]
    have hfail : Holds t .failing := by simp [Holds, he, hn]
    cases site with
    | startFailure =>
      exact safe_startFailureTail code (fun _ => hdone) (.inl hdone) fun _ => hfail
    | stop =>
      exact safe_stopTail code (hterminal.trans (hterm rfl)) (fun _ => hdone) (.inl hdone)
        (fun _ => hfail) fun _ => hfailed.trans hst.2.2.2.2
  cases exec_step h with
  | driverStopped => exact ⟨{ hL' statusOk with }, hsafe _ _ rfl rfl rfl⟩
  | driverStopFailed _ code => exact ⟨{ hL' code with }, hsafe _ _ rfl rfl rfl⟩

theorem keeps_storeStopFailed : Keeps P .storeStopFailed := by
  intro s s' rest ops r hL hS h
  have hn : ∀ f ∈ (rules.contract .storeStopFailed).needs, Holds s f := hS.1
  cases r <;> cases h
  obtain ⟨hret, hno⟩ := hn .failing (by simp)
  refine ⟨{ hL with
    stopReturn := fun r hr => (hno r hr).elim, stopFailed := fun _ => hret },
    hS.tail (fun f hf hl => ?_) (by simp [Holds])⟩
  rcases f with _ | _ | _ | _ | _ | _ | _ | _ | _ | _ | _ | _ | _ | _ | _ | (_ | _) <;>
    simp_all [Holds, Settled]

theorem keeps_storePublisherStop : Keeps P .storePublisherStop := by
  intro s s' rest ops r hL hS h
  have hd : Holds s .drainable := hS.1 _ (by simp)
  cases r <;> cases h
  exact ⟨{ hL with publisherStop := fun _ => hd },
    hS.tail (fun f hf _ => by cases f <;> exact hf) (by simp)⟩

theorem keeps_joinPublisher : Keeps P .joinPublisher := by
  intro s s' rest ops r hL hS h
  cases exec_step h with
  | joined hp =>
    refine ⟨hL.joinPublisher hp, hS.tail (fun f hf hl => ?_) ?_⟩
    · cases f <;> simp_all [Holds, Core.emit]
    · simp [Holds]
  | notJoinable hstill =>
    have hquiet : Holds s .quiet := hstill
    exact ⟨hL, hS.tail (fun f hf _ => hf) (by simpa using hquiet)⟩

theorem keeps_destroyHandle : Keeps P .destroyHandle := by
  intro s s' rest ops r hL hS h
  have hn : ∀ f ∈ (rules.contract .destroyHandle).needs, Holds s f := hS.1
  cases exec_step h with
  | destroyHandle k hk =>
    have hu := hL.usable (by simp [hk])
    refine ⟨hL.destroy (hk ▸ hu) (hn .quiet (by simp)) (hn .stopped (by simp)),
      hS.tail (fun f hf hl => ?_) (by simp [Holds])⟩
    cases f <;> simp_all [Holds, Core.emit]
  | noHandleLeft hk => exact ⟨hL, hS.tail (fun f hf _ => hf) (by simp [Holds, rules, hk])⟩

theorem keeps_setTerminal : Keeps P .setTerminal := by
  intro s s' rest ops r hL hS h
  have hn : ∀ f ∈ (rules.contract .setTerminal).needs, Holds s f := hS.1
  cases r <;> cases h
  have hg : Holds s .gone := hn _ (by simp)
  have hq : Holds s .quiet := hn _ (by simp)
  have hst : Holds s .stopped := hn _ (by simp)
  refine ⟨{ hL with
    closed := fun _ => .inr rfl
    stopReturn := fun r hr => ⟨rfl, (hL.stopReturn r hr).2⟩
    publisherStop := fun hp => (hL.publisherStop hp).imp_right fun h => ⟨rfl, h.2⟩ },
    hS.tail (fun f hf hl => ?_) ?_⟩
  · cases f with
    | drainable => exact hf.imp_right fun h => ⟨rfl, h.2⟩
    | _ => simp_all [Holds]
  · simp_all [Holds, Settled]

theorem keeps_exchangeNotified : Keeps P .exchangeNotified := by
  intro s s' rest ops r hL hS h
  have hrest : rules.Safe (Holds { s with failureNotified := true }) rest :=
    hS.tail (fun f hf _ => by cases f <;> exact hf) (by simp)
  cases exec_step h with
  | notify => exact ⟨{ hL with }, by simp, hrest.mono fun f hf => .inl ⟨hf, by simp⟩⟩
  | silent => exact ⟨{ hL with }, hrest⟩

theorem keeps_clearSink : Keeps P .clearSink := by
  intro s s' rest ops r hL hS h
  have hn : ∀ f ∈ (rules.contract .clearSink).needs, Holds s f := hS.1
  cases r <;> cases h
  have hL' := (hL.clear (hn .quiet (by simp))).1
  refine ⟨{ hL' with }, hS.tail (fun f hf hl => ?_) (by simp)⟩
  cases f <;> simp_all [Holds, Settled, Core.emit]

theorem keeps_clearNotifier : Keeps P .clearNotifier := by
  intro s s' rest ops r hL hS h
  have hn : ∀ f ∈ (rules.contract .clearNotifier).needs, Holds s f := hS.1
  cases r <;> cases h
  have hL' := (hL.clear (hn .quiet (by simp))).2
  refine ⟨{ hL' with }, hS.tail (fun f hf hl => ?_) (by simp)⟩
  cases f <;> simp_all [Holds, Settled, Core.emit]

theorem keeps_returnStart (result : Bool) : Keeps P (.returnStart result) := by
  intro s s' rest ops r hL hS h
  have hn : ∀ f ∈ (rules.contract (.returnStart result)).needs, Holds s f := hS.1
  cases r <;> cases h
  have hset : Settled s := hn .settled (by simp)
  refine ⟨hL.returnStart (hn .closed (by simp)) fun ht => hn .first (by simp [ht]), ?_⟩
  simpa [Holds, Settled, Core.emit] using hset

theorem keeps_returnStop (result : Bool) : Keeps P (.returnStop result) := by
  intro s s' rest ops r hL hS h
  have hn : ∀ f ∈ (rules.contract (.returnStop result)).needs, Holds s f := hS.1
  cases r <;> cases h
  have ht : Holds s .terminal := hn _ (by simp)
  have hg : Holds s .gone := hn _ (by simp)
  have hq : Holds s .quiet := hn _ (by simp)
  have hst : Holds s .stopped := hn _ (by simp)
  refine ⟨hL.returnStop ht hg hq hst (hn _ (by simp)), ?_⟩
  simp_all [Holds, Settled, Core.emit]

theorem keeps : ∀ op : OwnerOp, Keeps P op
  | .startGuard config sink notifier => keeps_startGuard config sink notifier
  | .create config => keeps_create config
  | .destroyCandidate h => keeps_destroyCandidate h
  | .setCallback => keeps_setCallback
  | .spawnPublisher => keeps_spawnPublisher
  | .driverStart => keeps_driverStart
  | .driverStartReturn => keeps_driverStartReturn
  | .stopGuard => keeps_stopGuard
  | .driverStop => keeps_driverStop
  | .driverStopReturn site => keeps_driverStopReturn site
  | .storeStopFailed => keeps_storeStopFailed
  | .storePublisherStop => keeps_storePublisherStop
  | .joinPublisher => keeps_joinPublisher
  | .destroyHandle => keeps_destroyHandle
  | .setTerminal => keeps_setTerminal
  | .exchangeNotified => keeps_exchangeNotified
  | .clearSink => keeps_clearSink
  | .clearNotifier => keeps_clearNotifier
  | .returnStart result => keeps_returnStart result
  | .returnStop result => keeps_returnStop result
  -- no fact and no entry of the ledger mentions what these store
  | .storeAdmission _ | .storeFailed | .callNotifier =>
    fun _ _ _ _ r hL hS h => by
      cases r <;> cases h
      exact ⟨{ hL with }, hS.tail (fun f hf _ => by cases f <;> exact hf) (by simp)⟩

/-! ### The other threads -/

def PublisherFrame (s s' : Core P) : Prop :=
  s'.publisher = s.publisher ∨ s.publisher = .running ∧ s'.publisher = .finished

theorem publishLoop_publisher {t : Bool} {a : PublisherAct} {s s' : Core P}
    {l l' : PublisherPc P} (hp : s.publisher = .running)
    (h : publishLoop t a s l = some (s', l')) : PublisherFrame s s' := by
  cases publishLoop_step h with
  | leave | callNotifier | drained => exact .inr ⟨hp, rfl⟩
  | _ => exact .inl rfl

theorem Holds.congr {s s' : Core P} {f : Fact} (hf : OwnerFrame s s') (hp : PublisherFrame s s')
    (h : Holds s f) : Holds s' f := by
  obtain ⟨h1, h2, h3, h4, h5, h6, h7, h8, h9, h10, h11, h12⟩ := hf
  rcases hp with hp | ⟨hp, hp'⟩ <;> cases f <;> simp_all [Holds, Settled]

theorem Ledger.congr {s s' : Core P} (hf : OwnerFrame s s') (hp : PublisherFrame s s')
    (h : Ledger s) : Ledger s' := by
  obtain ⟨h1, h2, h3, h4, h5, h6, h7, h8, h9, h10, h11, h12⟩ := hf
  obtain ⟨l1, l2, l3, l4, l5, l6, l7, l8, l9, l10, l11, l12, l13, l14⟩ := h
  rcases hp with hp | ⟨hp, hp'⟩ <;> constructor <;> simp_all

end RoboBaton.Imu
