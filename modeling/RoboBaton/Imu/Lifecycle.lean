import RoboBaton.Imu.Protocol

/-! Whole runs of the callers: the history obeys the driver protocol, the destructor leaves
nothing behind, and a returned `Stop` is final. -/

namespace RoboBaton.Imu
open Trace Transition
variable {P : Type}

def StopCode : List OwnerOp → Prop
  | [] => False
  | op :: ops =>
    match op with
    | .stopGuard | .driverStopReturn .stop | .returnStop _ => True
    | .driverStop | .storeStopFailed | .storeAdmission _ | .storePublisherStop | .joinPublisher
    | .destroyHandle | .storeFailed | .exchangeNotified | .callNotifier | .clearSink
    | .clearNotifier => StopCode ops
    | .startGuard .. | .create _ | .destroyCandidate _ | .setCallback | .spawnPublisher
    | .driverStart | .driverStartReturn | .driverStopReturn .startFailure | .setTerminal
    | .returnStart _ => False

def Owned (s : Core P) (ops : List OwnerOp) : Prop :=
  ∀ h, Created s.events h →
    s.handle = some h ∨ .destroy (some h) ∈ s.events ∨ ops.head? = some (.destroyCandidate h)

theorem exec_events {s s' : Core P} {op : OwnerOp} {rest ops : List OwnerOp} {r : Reply}
    (h : op.exec s rest r = some (s', ops)) : s.events <+: s'.events := by
  cases exec_step h <;> first | exact List.prefix_refl _ | exact List.prefix_append _ _

theorem stopCode_stopTail (status : Status) : StopCode (stopTail status) := by
  by_cases h : status = statusOk <;> simp [stopTail, finishPublisher, recordFailure, h, StopCode]

theorem exec_stopCode {s s' : Core P} {op : OwnerOp} {rest ops : List OwnerOp} {r : Reply}
    (hc : StopCode (op :: rest)) (h : op.exec s rest r = some (s', ops)) :
    StopCode ops ∨ ∃ result, .returnStop result ∈ s'.events := by
  cases exec_step h with
  | stopped => exact .inl trivial
  | stopDriver => exact .inl trivial
  | stopIdle => exact .inl (stopCode_stopTail _)
  | driverStopped site =>
    cases site with
    | startFailure => exact hc.elim
    | stop => exact .inl (stopCode_stopTail _)
  | driverStopFailed site code =>
    cases site with
    | startFailure => exact hc.elim
    | stop => exact .inl (stopCode_stopTail _)
  | returnStop result => exact .inr ⟨result, by simp [Core.emit]⟩
  | _ => first | exact hc.elim | exact .inl hc

theorem Owned.keep {s s' : Core P} {op : OwnerOp} {rest ops : List OwnerOp}
    (hc : Owned s (op :: rest)) (hop : ∀ k, op ≠ .destroyCandidate k)
    (hhandle : s'.handle = s.handle) (hevents : s.events <+: s'.events)
    (hcreated : ∀ k, Created s'.events k → Created s.events k) : Owned s' ops := by
  intro k hk
  rcases hc k (hcreated k hk) with hlive | hdestroyed | hhead
  · exact .inl (hhandle.trans hlive)
  · exact .inr (.inl (hevents.subset hdestroyed))
  · exact absurd (Option.some.inj hhead) (hop k)

theorem exec_owned {s s' : Core P} {op : OwnerOp} {rest ops : List OwnerOp} {r : Reply}
    (hc : Owned s (op :: rest)) (hfresh : ∀ config, op = .create config → s.handle = none)
    (h : op.exec s rest r = some (s', ops)) : Owned s' ops := by
  have hevents := exec_events h
  have hold : ∀ k, Created s.events k → s.handle = some k ∨ .destroy (some k) ∈ s'.events ∨
      op = .destroyCandidate k := fun k hk =>
    (hc k hk).imp_right (Or.imp (hevents.subset ·) Option.some.inj)
  -- nothing is stored when a handle is created, so every other handle has been destroyed
  have hcandidate : ∀ config status handle, op = .create config →
      ∀ k, Created (s.events ++ [.create config status (some handle)]) k →
        k = handle ∨ .destroy (some k) ∈ s'.events := by
    rintro config status handle rfl k hk
    rcases (created_append _ _ k).mp hk with hk | ⟨_, _, heq⟩
    · rcases hold k hk with hlive | hdestroyed | hop
      · simp [hfresh config rfl] at hlive
      · exact .inr hdestroyed
      · cases hop
    · cases heq
      exact .inl rfl
  cases exec_step h with
  | badStatus config status handle =>
    intro k hk
    rcases hcandidate config status handle rfl k hk with rfl | hdestroyed
    · exact .inr (.inr rfl)
    · exact .inr (.inl hdestroyed)
  | created config handle =>
    intro k hk
    rcases hcandidate config statusOk handle rfl k hk with rfl | hdestroyed
    · exact .inl rfl
    · exact .inr (.inl hdestroyed)
  | destroyCandidate handle =>
    intro k hk
    rcases hold k (by simpa [Core.emit] using hk) with hlive | hdestroyed | hop
    · exact .inl hlive
    · exact .inr (.inl hdestroyed)
    · cases hop
      exact .inr (.inl (by simp [Core.emit]))
  | destroyHandle handle hsome =>
    intro k hk
    rcases hold k (by simpa [Core.emit] using hk) with hlive | hdestroyed | hop
    · obtain rfl := Option.some.inj (hsome.symm.trans hlive)
      exact .inr (.inl (by simp [Core.emit]))
    · exact .inr (.inl hdestroyed)
    · cases hop
  | _ => exact hc.keep (by simp) rfl hevents fun k hk => by simpa [Core.emit, Core.incident] using hk

theorem publisher_step_running [Inhabited P] {t : Bool} {a : PublisherAct} {s s' : Core P}
    {l l' : PublisherPc P} (h : (threads P t).step .publisher a s l = some (s', l')) :
    OwnerFrame s s' ∧ PublisherFrame s s' :=
  have ⟨hrun, hstep⟩ := threads_publisher h
  ⟨(publishLoop_frame hstep).1, publishLoop_publisher hrun hstep⟩

/-- Where the callers are: what their code relies on holds, no handle is lost, and the
destructor does not end before its `Stop`. -/
structure OwnerOk (s : Core P) (l : OwnerLocal) : Prop where
  safe : rules.Safe (Holds s) l.ops
  owned : Owned s l.ops
  destructor : l.destructed = true → StopCode l.ops ∨ ∃ result, .returnStop result ∈ s.events

theorem OwnerOk.congr {s s' : Core P} {l : OwnerLocal} (hf : OwnerFrame s s')
    (hp : PublisherFrame s s') (h : OwnerOk s l) : OwnerOk s' l where
  safe := h.safe.mono fun _ hk => hk.congr hf hp
  owned := by
    intro k hk
    rw [hf.events] at hk ⊢
    rw [hf.handle]
    exact h.owned k hk
  destructor := by
    rw [hf.events]
    exact h.destructor

theorem ownerStep_ok {a : OwnerAct} {s s' : Core P} {l l' : OwnerLocal} (hL : Ledger s)
    (hl : OwnerOk s l) (h : ownerStep a s l = some (s', l')) : Ledger s' ∧ OwnerOk s' l' := by
  rcases ownerStep_cases h with ⟨rfl, hops, -, hl'⟩ | ⟨op, ops, r, hops, he, hd⟩
  · have hset : Holds s' .settled := by
      have hsafe := hl.safe
      rw [hops] at hsafe
      exact hsafe _ (by simp)
    have howned : ∀ k, Created s'.events k →
        s'.handle = some k ∨ .destroy (some k) ∈ s'.events := by
      intro k hk
      simpa [hops] using hl.owned k hk
    refine ⟨hL, ?_⟩
    rcases hl' with ⟨config, sink, notifier, rfl⟩ | ⟨d, rfl⟩
    · exact ⟨by simp [hset], fun k hk => (howned k hk).imp_right .inl, nofun⟩
    · exact ⟨by simp [hset], fun k hk => (howned k hk).imp_right .inl, fun _ => .inl trivial⟩
  · obtain ⟨ops', d⟩ := l'
    obtain ⟨hsafe, howned, hdes⟩ := hl
    rw [hops] at hsafe howned hdes
    obtain ⟨hL', hsafe'⟩ := keeps op _ _ _ _ _ hL hsafe he
    refine ⟨hL', hsafe', exec_owned howned ?_ he, fun hd' => ?_⟩
    · rintro config rfl
      exact (hsafe.1 .virgin (by simp)).1
    · rcases hdes (hd ▸ hd') with hc | ⟨result, hr⟩
      · exact exec_stopCode hc he
      · exact .inr ⟨result, (exec_events he).subset hr⟩

theorem reachable_owner [Inhabited P] {t : Bool} {s} (h : (threads P t).Reachable s) :
    Ledger s.shared ∧ OwnerOk s.shared (s.locals .owner) := by
  refine Threads.Reachable.focus (T := threads P t) (i := .owner)
    (J := fun s l => Ledger s ∧ OwnerOk s l) ⟨?_, ?_, ?_, ?_⟩ ?_ ?_ h
  · constructor <;>
      simp [threads, Core.init, NoCreate, Returned, Started, Stopped, StopReturned, ordered_nil]
  · simp [threads, Core.init, Holds, Settled, Stopped]
  · simp [threads, Core.init, Owned, Created]
  · simp [threads, Core.init]
  · intro s a s' l' _ hJ hst
    exact ownerStep_ok hJ.1 hJ.2 hst
  · intro s j a s' l' hj _ hJ hst
    cases j with
    | owner => exact absurd rfl hj
    | producer =>
      obtain ⟨hf, hp⟩ := sampleTrampoline_frame hst
      exact ⟨hJ.1.congr hf (.inl hp), OwnerOk.congr hf (.inl hp) hJ.2⟩
    | publisher =>
      obtain ⟨hf, hp⟩ := publisher_step_running hst
      exact ⟨hJ.1.congr hf hp, OwnerOk.congr hf hp hJ.2⟩

/-! ### The protocol -/

abbrev State (P : Type) := Config Thread (Core P) (Local P)

def Destructed (s : State P) : Prop :=
  (s.locals .owner : OwnerLocal).ops = [] ∧ (s.locals .owner : OwnerLocal).destructed = true

def Event.isCreate : Event → Bool
  | .create .. => true
  | _ => false

def Event.isStop : Event → Bool
  | .stop _ => true
  | _ => false

def Event.isStopReturned : Event → Bool
  | .stopReturned _ => true
  | _ => false

/-- The driver protocol of one core, as it shows in a state: in the history of the calls, and
in what a further call of `Start` or `Stop` would do. -/
structure DriverProtocol (t : Bool) [Inhabited P] (s : State P) : Prop where
  ordered : Ordered Allowed s.shared.events
  oneHandle : (s.shared.events.filter Event.isCreate).length ≤ 1
  destroyedOnce : Destructed s → ∀ h, Created s.shared.events h →
    (s.shared.events.filter (· == .destroy (some h))).length = 1
  stoppedOnce : Destructed s → Started s.shared.events →
    (s.shared.events.filter Event.isStop).length = 1
  neverStopped : ¬ Started s.shared.events → ¬ Stopped s.shared.events
  laterStart : Returned s.shared.events → ∀ config sink notifier rest,
    OwnerOp.exec s.shared rest (.startGuard config sink notifier) .done =
      some (s.shared, [.returnStart false])
  laterStop : ∀ result, .returnStop result ∈ s.shared.events → ∀ rest,
    OwnerOp.exec s.shared rest .stopGuard .done = some (s.shared, [.returnStop result])
  sinkSilent : (∃ result, .returnStop result ∈ s.shared.events) →
    ∀ u, (threads P t).toSystem.Later s u → u.shared.handed = s.shared.handed ∧
      ∀ a, (threads P t).step .publisher a u.shared (u.locals .publisher) = none

section Reached
variable [Inhabited P] {t : Bool} {s : State P}

theorem threads_events {i : Thread} {a : Act P i} {u u' : Core P} {l l' : Local P i}
    (h : (threads P t).step i a u l = some (u', l')) : u.events <+: u'.events := by
  cases i with
  | owner =>
    rcases ownerStep_cases h with ⟨rfl, -⟩ | ⟨op, ops, r, -, he, -⟩
    · exact List.prefix_refl _
    · exact exec_events he
  | producer => exact (sampleTrampoline_frame h).1.events ▸ List.prefix_refl _
  | publisher => exact (publisher_step_running h).1.events ▸ List.prefix_refl _

theorem no_publisher_step (h : (threads P t).Reachable s)
    (hr : ∃ result, .returnStop result ∈ s.shared.events) (a : PublisherAct) :
    (threads P t).step .publisher a s.shared (s.locals .publisher) = none := by
  obtain ⟨result, hr⟩ := hr
  have hq := ((reachable_owner h).1.stopReturn result hr).2.2.1
  have hne : s.shared.publisher ≠ .running := by
    rcases hq with hq | hq <;> simp [hq]
  exact if_neg hne

theorem later_handed (h : (threads P t).Reachable s)
    (hr : ∃ result, .returnStop result ∈ s.shared.events) {u : State P}
    (hu : (threads P t).toSystem.Later s u) :
    (∃ result, .returnStop result ∈ u.shared.events) ∧ u.shared.handed = s.shared.handed := by
  refine System.Later.stable (M := (threads P t).toSystem)
    (P := fun u => (∃ result, .returnStop result ∈ u.shared.events) ∧
      u.shared.handed = s.shared.handed) ?_ h ⟨hr, rfl⟩ hu
  rintro v ⟨i, a⟩ w hv ⟨⟨result, hret⟩, hhanded⟩ hn
  obtain ⟨c, l, hst, rfl⟩ := Threads.next_eq_some hn
  refine ⟨⟨result, (threads_events hst).subset hret⟩, ?_⟩
  rw [← hhanded]
  cases i with
  | owner => exact (ownerStep_dispatch hst).2.2.2.1
  | producer => exact (sampleTrampoline_dispatch hst).2.1
  | publisher => rw [no_publisher_step hv ⟨result, hret⟩ a] at hst; cases hst

/-- In whatever order the callers, the callback and the publisher run, and whatever the
driver answers, the driver protocol holds. -/
theorem driver_protocol (h : (threads P t).Reachable s) : DriverProtocol t s := by
  obtain ⟨hL, hsafe, howned, hdes⟩ := reachable_owner h
  have hreturned : Destructed s → ∃ result, .returnStop result ∈ s.shared.events := by
    rintro ⟨hops, hd⟩
    refine (hdes hd).resolve_left fun hc => ?_
    rw [hops] at hc
    exact hc
  constructor
  case ordered => exact hL.ordered
  case oneHandle =>
    refine hL.ordered.filter_length_le_one fun pre e he hok x hx => ?_
    cases e <;> try cases he
    cases x <;> first | rfl | exact (hok.1 _ _ _ hx).elim
  case destroyedOnce =>
    intro hfin k hk
    obtain ⟨result, hr⟩ := hreturned hfin
    have hd : .destroy (some k) ∈ s.shared.events := by
      have := howned k hk
      rw [hfin.1, (hL.stopReturn result hr).2.1] at this
      simpa using this
    refine hL.ordered.filter_length_eq_one (fun pre e he hok x hx => ?_) hd (by simp)
    obtain rfl : e = .destroy (some k) := by simpa using he
    obtain ⟨⟨_, hk', -, hnot, -⟩, -⟩ := hok
    obtain rfl := Option.some.inj hk'
    simp only [beq_eq_false_iff_ne, ne_eq]
    rintro rfl
    exact hnot hx
  case stoppedOnce =>
    intro hfin hs
    obtain ⟨result, hr⟩ := hreturned hfin
    have hret := (hL.stopReturn result hr).2.2.2.1 (hL.started.mpr hs)
    obtain ⟨handle, hstop⟩ := hL.stopReturned hret
    refine hL.ordered.filter_length_eq_one (fun pre e he hok x hx => ?_) hstop rfl
    cases e <;> try cases he
    cases x <;> first | rfl | exact (hok.2.2 ⟨_, hx⟩).elim
  case neverStopped =>
    intro hs hstop
    exact hs (hL.started.mp (hL.stopped hstop))
  case laterStart =>
    intro hr config sink notifier rest
    rcases hL.closed hr with hc | ht
    · simp [OwnerOp.exec, hc]
    · simp [OwnerOp.exec, ht]
  case laterStop =>
    intro result hr rest
    obtain ⟨ht, hh, -, -, hv⟩ := hL.stopReturn result hr
    simp [OwnerOp.exec, ht, hh, hv]
  case sinkSilent =>
    intro hr u hu
    obtain ⟨hr', hhanded⟩ := later_handed h hr hu
    exact ⟨hhanded, no_publisher_step (hu.reachable h) hr'⟩

end Reached
/-! ### A run -/

def ownerDoes (as : List OwnerAct) : List (Σ i, Act P i) := as.map fun a => ⟨.owner, a⟩

def producerDoes (as : List (ProducerAct P)) : List (Σ i, Act P i) :=
  as.map fun a => ⟨.producer, a⟩

def publisherDoes (as : List PublisherAct) : List (Σ i, Act P i) :=
  as.map fun a => ⟨.publisher, a⟩

def oneSampleRun : List (Σ i, Act Unit i) :=
  ownerDoes [.start ⟨200, 8, 1, false⟩ true true, .reply .done,
    .reply (.created statusOk (some 7)), .reply (.status statusOk), .reply .done,
    .reply (.spawned true), .reply .done, .reply (.status statusOk), .reply .done] ++
  producerDoes [.callback (some ⟨sampleStructSize, 5, ()⟩) 11, .step, .step, .step, .step, .step] ++
  ownerDoes [.destruct, .reply .done, .reply .done, .reply (.status statusOk), .reply .done,
    .reply .done] ++
  publisherDoes [.step, .step, .step, .step, .step, .step, .step, .returns 3, .step,
    .step, .step, .step, .step, .step] ++
  ownerDoes [.reply .done, .reply .done, .reply .done, .reply .done, .reply .done]

def oneSampleEnd : State Unit :=
  ((threads Unit false).toSystem.run oneSampleRun (threads Unit false).toSystem.start).get rfl

theorem driver_protocol_oneSample : Destructed oneSampleEnd ∧ DriverProtocol false oneSampleEnd :=
  ⟨⟨rfl, rfl⟩, driver_protocol (System.reachable_get _)⟩

end RoboBaton.Imu
