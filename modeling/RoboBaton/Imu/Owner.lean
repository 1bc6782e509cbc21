import RoboBaton.Imu.Frames
import RoboBaton.Library.Discipline
import RoboBaton.Library.Trace

/-! The callers of `Start` and `Stop`: what each instruction relies on, and what the history
of driver calls looks like whenever it is that instruction's turn. -/

namespace RoboBaton.Imu
open Trace
variable {P : Type}

/-! ### Histories -/

def Created (es : List Event) (h : Handle) : Prop :=
  ∃ config status, Event.create config status (some h) ∈ es

def NoCreate (es : List Event) : Prop := ∀ config status handle, .create config status handle ∉ es

def Started (es : List Event) : Prop := ∃ handle, Event.start handle ∈ es

def Stopped (es : List Event) : Prop := ∃ handle, Event.stop handle ∈ es

def StopReturned (es : List Event) : Prop := ∃ status, Event.stopReturned status ∈ es

def Returned (es : List Event) : Prop :=
  (∃ result, Event.returnStart result ∈ es) ∨ ∃ result, Event.returnStop result ∈ es

section Append
variable (es : List Event) (e : Event)

@[simp] theorem created_append (h : Handle) : Created (es ++ [e]) h ↔
    Created es h ∨ ∃ config status, e = .create config status (some h) := by
  simp only [Created, List.mem_append, List.mem_singleton, exists_or, eq_comm (b := e)]

@[simp] theorem noCreate_append : NoCreate (es ++ [e]) ↔
    NoCreate es ∧ ∀ config status handle, e ≠ .create config status handle := by
  simp only [NoCreate, List.mem_append, List.mem_singleton, not_or, forall_and, ne_eq,
    eq_comm (b := e)]

@[simp] theorem started_append : Started (es ++ [e]) ↔
    Started es ∨ ∃ handle, e = .start handle := by
  simp only [Started, List.mem_append, List.mem_singleton, exists_or, eq_comm (b := e)]

@[simp] theorem stopped_append : Stopped (es ++ [e]) ↔
    Stopped es ∨ ∃ handle, e = .stop handle := by
  simp only [Stopped, List.mem_append, List.mem_singleton, exists_or, eq_comm (b := e)]

@[simp] theorem stopReturned_append : StopReturned (es ++ [e]) ↔
    StopReturned es ∨ ∃ status, e = .stopReturned status := by
  simp only [StopReturned, List.mem_append, List.mem_singleton, exists_or, eq_comm (b := e)]

@[simp] theorem returned_append : Returned (es ++ [e]) ↔
    Returned es ∨ (∃ result, e = .returnStart result) ∨ ∃ result, e = .returnStop result := by
  simp only [Returned, List.mem_append, List.mem_singleton, exists_or, eq_comm (b := e)]
  tauto

end Append

/-- A handle the driver may be called with: created, not destroyed, and no `Stop` is over. -/
def Usable (es : List Event) (handle : Option Handle) : Prop :=
  ∃ h, handle = some h ∧ Created es h ∧ .destroy (some h) ∉ es ∧ ∀ result, .returnStop result ∉ es

def Joined (es : List Event) : Prop := .spawnPublisher true ∈ es → .joinPublisher ∈ es

def Allowed (pre : List Event) : Event → Prop
  | .create .. => NoCreate pre ∧ ∀ result, .returnStop result ∉ pre
  | .setCallback handle _ => Usable pre handle ∧ ¬ Started pre
  | .spawnPublisher _ => .spawnPublisher true ∉ pre ∧ ¬ Started pre
  | .start handle => Usable pre handle ∧ ¬ Started pre ∧ .spawnPublisher true ∈ pre
  | .stop handle => Usable pre handle ∧ Started pre ∧ ¬ Stopped pre
  | .stopReturned _ => Stopped pre ∧ ¬ StopReturned pre
  | .joinPublisher => .spawnPublisher true ∈ pre
  | .destroy handle => Usable pre handle ∧ (Started pre → StopReturned pre) ∧ Joined pre
  | .clearSink | .clearNotifier => Joined pre
  | .returnStart result => Returned pre → result = false
  | .returnStop result => ∀ earlier, .returnStop earlier ∈ pre → result = earlier

/-! ### What the instructions rely on -/

inductive Fact where
  | virgin
  | prepared
  | spawned
  | stoppable
  | stopping
  | quiet
  | stopped
  | drainable
  | gone
  | terminal
  | opened
  | closed
  | first
  | settled
  | failing
  | candidate (h : Handle)
  | verdict (result : Bool)

def Settled (s : Core P) : Prop :=
  (s.terminal = true → s.handle = none ∧ (s.publisher = .none ∨ s.publisher = .joined) ∧
    (s.startAttempted = true → StopReturned s.events)) ∧
  (s.terminal = false → ¬ Stopped s.events ∧ s.startAttempted = s.handle.isSome)

def Holds (s : Core P) : Fact → Prop
  | .virgin => s.handle = none ∧ s.publisher = .none ∧ s.startAttempted = false ∧ NoCreate s.events
  | .prepared => s.handle.isSome = true ∧ s.publisher = .none ∧ s.startAttempted = false
  | .spawned => s.handle.isSome = true ∧ s.publisher ≠ .none ∧ s.startAttempted = false
  | .stoppable => s.handle.isSome = true ∧ s.startAttempted = true ∧ ¬ Stopped s.events
  | .stopping => s.handle.isSome = true ∧ s.startAttempted = true ∧ Stopped s.events ∧
      ¬ StopReturned s.events ∧ s.stopFailed = false
  | .quiet => s.publisher = .none ∨ s.publisher = .joined
  | .stopped => s.startAttempted = true → StopReturned s.events
  | .drainable => StopReturned s.events ∨ s.terminal = true ∧ s.startAttempted = false
  | .gone => s.handle = none
  | .terminal => s.terminal = true
  | .opened => s.terminal = false
  | .closed => s.startClaimed = true ∨ s.terminal = true
  | .first => ¬ Returned s.events
  | .settled => Settled s
  | .failing => StopReturned s.events ∧ ∀ result, .returnStop result ∉ s.events
  | .candidate h => s.handle = none ∧ Created s.events h ∧ .destroy (some h) ∉ s.events
  | .verdict result => s.stopFailed = !result

@[simp] def rules : Discipline.Rules OwnerOp Fact where
  ends := [.settled]
  -- nothing is executed after a jump, so a jump may promise what the end needs
  contract
    | .startGuard .. => { needs := [.settled], gives := [.settled] }
    | .create _ => { needs := [.virgin, .closed, .opened, .first], gives := [.settled] }
    | .destroyCandidate h =>
      { needs := [.candidate h, .quiet, .stopped, .first], loses := [.candidate h] }
    | .setCallback => { needs := [.prepared, .closed, .opened, .first], gives := [.settled] }
    | .storeAdmission _ => {}
    | .spawnPublisher => { needs := [.prepared, .closed, .opened, .first], gives := [.settled] }
    | .driverStart => { needs := [.spawned, .closed, .opened, .first], gives := [.settled] }
    | .driverStartReturn =>
      { needs := [.stoppable, .closed, .opened, .first], gives := [.settled] }
    | .stopGuard => { needs := [.settled], gives := [.settled] }
    | .driverStop =>
      { needs := [.stoppable], gives := [.stopping], loses := [.stoppable, .settled] }
    | .driverStopReturn .startFailure => { needs := [.stopping, .closed], gives := [.settled] }
    | .driverStopReturn .stop => { needs := [.stopping, .terminal], gives := [.settled] }
    | .storeStopFailed =>
      { needs := [.failing], gives := [.verdict false], loses := [.verdict true, .stopping] }
    | .storePublisherStop => { needs := [.drainable] }
    | .joinPublisher => { gives := [.quiet], loses := [.spawned, .settled] }
    | .destroyHandle =>
      { needs := [.quiet, .stopped], gives := [.gone]
        loses := [.prepared, .spawned, .stoppable, .stopping, .settled] }
    | .setTerminal =>
      { needs := [.gone, .quiet, .stopped], gives := [.terminal, .closed, .settled]
        loses := [.opened, .settled] }
    | .storeFailed => {}
    | .exchangeNotified => {}
    | .callNotifier => {}
    | .clearSink => { needs := [.quiet] }
    | .clearNotifier => { needs := [.quiet] }
    | .returnStart result =>
      { needs := [.closed, .settled] ++ if result then [.first] else [] }
    | .returnStop result =>
      { needs := [.terminal, .gone, .quiet, .stopped, .verdict result], gives := [.settled] }

/-- What the events tell about the members that only the callers change. -/
structure Ledger (s : Core P) : Prop where
  unclaimed : s.startClaimed = false → s.handle = none ∧ s.publisher = .none ∧
    s.startAttempted = false ∧ NoCreate s.events
  closed : Returned s.events → s.startClaimed = true ∨ s.terminal = true
  stopReturn : ∀ result, .returnStop result ∈ s.events → s.terminal = true ∧ s.handle = none ∧
    (s.publisher = .none ∨ s.publisher = .joined) ∧
    (s.startAttempted = true → StopReturned s.events) ∧ s.stopFailed = !result
  started : s.startAttempted = true ↔ Started s.events
  startCalled : s.driver.startCalled = s.startAttempted
  stopped : Stopped s.events → s.startAttempted = true
  stopReturned : StopReturned s.events → Stopped s.events
  stopFailed : s.stopFailed = true → StopReturned s.events
  spawned : s.publisher = .none ↔ .spawnPublisher true ∉ s.events
  joined : s.publisher = .joined ↔ .joinPublisher ∈ s.events
  unspawned : s.publisher = .none → s.startAttempted = false
  publisherStop : s.publisherStop = true →
    StopReturned s.events ∨ s.terminal = true ∧ s.startAttempted = false
  live : ∀ h, s.handle = some h → Created s.events h ∧ .destroy (some h) ∉ s.events
  ordered : Ordered Allowed s.events

def Supported (s : Core P) : Event → Prop
  | .create .. => s.startClaimed = true
  | .stop _ => s.startAttempted = true
  | .stopReturned _ => Stopped s.events
  | .destroy _ => s.handle = none
  | .returnStart _ => Holds s .closed
  | .returnStop result => Holds s .terminal ∧ Holds s .gone ∧ Holds s .quiet ∧ Holds s .stopped ∧
      Holds s (.verdict result)
  | .start _ | .spawnPublisher true | .joinPublisher => False
  | _ => True

namespace Ledger
variable {s : Core P}

theorem emit (h : Ledger s) {e : Event} (hs : Supported s e) (ha : Allowed s.events e) :
    Ledger (s.emit e) where
  unclaimed hc := by
    obtain ⟨hnone, hpublisher, hidle, hno⟩ := h.unclaimed hc
    refine ⟨hnone, hpublisher, hidle, fun config status handle hmem => ?_⟩
    obtain hmem | rfl := Core.mem_emit.mp hmem
    · exact hno config status handle hmem
    · exact absurd (hc.symm.trans hs) (by decide)
  closed hr := by
    obtain hr | ⟨result, rfl⟩ | ⟨result, rfl⟩ := (returned_append s.events e).mp hr
    · exact h.closed hr
    · exact hs
    · exact .inr hs.1
  stopReturn result hr := by
    have hlater : StopReturned s.events → StopReturned (s.emit e).events :=
      fun hret => (stopReturned_append s.events e).mpr (.inl hret)
    obtain hr | rfl := Core.mem_emit.mp hr
    · obtain ⟨ht, hg, hq, hst, hv⟩ := h.stopReturn result hr
      exact ⟨ht, hg, hq, hlater ∘ hst, hv⟩
    · obtain ⟨ht, hg, hq, hst, hv⟩ := hs
      exact ⟨ht, hg, hq, hlater ∘ hst, hv⟩
  started := by
    refine h.started.trans ⟨fun hst => (started_append s.events e).mpr (.inl hst), fun hst => ?_⟩
    obtain hst | ⟨handle, rfl⟩ := (started_append s.events e).mp hst
    · exact hst
    · exact hs.elim
  startCalled := h.startCalled
  stopped hst := by
    obtain hst | ⟨handle, rfl⟩ := (stopped_append s.events e).mp hst
    · exact h.stopped hst
    · exact hs
  stopReturned hr := by
    refine (stopped_append s.events e).mpr (.inl ?_)
    obtain hr | ⟨status, rfl⟩ := (stopReturned_append s.events e).mp hr
    · exact h.stopReturned hr
    · exact hs
  stopFailed hf := (stopReturned_append s.events e).mpr (.inl (h.stopFailed hf))
  spawned := by
    refine h.spawned.trans (not_congr ⟨fun hsp => Core.mem_emit.mpr (.inl hsp), fun hsp => ?_⟩)
    obtain hsp | rfl := Core.mem_emit.mp hsp
    · exact hsp
    · exact hs.elim
  joined := by
    refine h.joined.trans ⟨fun hj => Core.mem_emit.mpr (.inl hj), fun hj => ?_⟩
    obtain hj | rfl := Core.mem_emit.mp hj
    · exact hj
    · exact hs.elim
  unspawned := h.unspawned
  publisherStop hp := (h.publisherStop hp).imp_left fun hret =>
    (stopReturned_append s.events e).mpr (.inl hret)
  live k hk := by
    obtain ⟨hcreated, hlive⟩ := h.live k hk
    refine ⟨(created_append s.events e k).mpr (.inl hcreated), fun hmem => ?_⟩
    obtain hmem | rfl := Core.mem_emit.mp hmem
    · exact hlive hmem
    · exact absurd (hs.symm.trans hk) nofun
  ordered := h.ordered.append_singleton ha

theorem no_returnStop (h : Ledger s) (hh : s.handle.isSome = true) (result : Bool) :
    .returnStop result ∉ s.events := by
  intro hr
  simp [(h.stopReturn result hr).2.1] at hh

theorem usable (h : Ledger s) (hh : s.handle.isSome = true) : Usable s.events s.handle := by
  obtain ⟨handle, he⟩ := Option.isSome_iff_exists.mp hh
  exact ⟨handle, he, (h.live _ he).1, (h.live _ he).2, h.no_returnStop hh⟩

theorem not_started (h : Ledger s) (hs : s.startAttempted = false) : ¬ Started s.events := by
  rw [← h.started, hs]
  exact Bool.false_ne_true

theorem joined_of_quiet (h : Ledger s) (hq : Holds s .quiet) : Joined s.events := by
  intro hsp
  rcases hq with hq | hq
  · exact (h.spawned.mp hq hsp).elim
  · exact h.joined.mp hq

theorem create (h : Ledger s) (hv : Holds s .virgin) (hc : Holds s .closed) (ho : Holds s .opened)
    (hf : Holds s .first) (config : CoreConfig) (status : Status) (handle : Option Handle) :
    Ledger (s.emit (.create config status handle)) := by
  have hclaimed : s.startClaimed = true :=
    hc.resolve_right fun ht => absurd (ho.symm.trans ht) (by decide)
  exact h.emit hclaimed ⟨hv.2.2.2, fun r hr => hf (.inr ⟨r, hr⟩)⟩

theorem storeHandle (h : Ledger s) (hc : s.startClaimed = true)
    (hr : ∀ result, .returnStop result ∉ s.events) {handle : Handle}
    (hcr : Created s.events handle) (hd : .destroy (some handle) ∉ s.events) :
    Ledger { s with handle := some handle } :=
  { h with
    unclaimed := fun hc' => absurd (hc.symm.trans hc') (by decide)
    stopReturn := fun r hr' => (hr r hr').elim
    live := fun k hk => Option.some.inj hk ▸ ⟨hcr, hd⟩ }

theorem setCallback (h : Ledger s) (hp : Holds s .prepared) (code : Status) :
    Ledger (s.emit (.setCallback s.handle code)) :=
  h.emit trivial ⟨h.usable hp.1, h.not_started hp.2.2⟩

theorem spawnPublisher (h : Ledger s) (hp : Holds s .prepared) (hc : Holds s .closed)
    (ho : Holds s .opened) :
    Ledger { s.emit (.spawnPublisher true) with publisher := .running } ∧
      Ledger (s.emit (.spawnPublisher false)) := by
  have ha : ∀ ok, Allowed s.events (.spawnPublisher ok) := fun ok =>
    ⟨h.spawned.mp hp.2.1, h.not_started hp.2.2⟩
  have hn := h.no_returnStop hp.1
  refine ⟨?_, h.emit trivial (ha false)⟩
  obtain ⟨l1, l2, l3, l4, l5, l6, l7, l8, l9, l10, l11, l12, l13, l14⟩ := h
  constructor
  case ordered => exact l14.append_singleton (ha true)
  all_goals simp_all [Core.emit, Holds]

theorem driverStart (h : Ledger s) (hp : Holds s .spawned) (ho : Holds s .opened) :
    Ledger { s.emit (.start s.handle) with
      startAttempted := true, driver := { s.driver with startCalled := true } } := by
  have hsp : .spawnPublisher true ∈ s.events := by
    by_contra hsp
    exact hp.2.1 (h.spawned.mpr hsp)
  have ha : Allowed s.events (.start s.handle) := ⟨h.usable hp.1, h.not_started hp.2.2, hsp⟩
  have hn := h.no_returnStop hp.1
  obtain ⟨l1, l2, l3, l4, l5, l6, l7, l8, l9, l10, l11, l12, l13, l14⟩ := h
  constructor
  case ordered => exact l14.append_singleton ha
  all_goals simp_all [Core.emit, Holds]

theorem driverStop (h : Ledger s) (hp : Holds s .stoppable) : Ledger (s.emit (.stop s.handle)) :=
  h.emit hp.2.1 ⟨h.usable hp.1, h.started.mp hp.2.1, hp.2.2⟩

theorem driverStopReturn (h : Ledger s) (hp : Holds s .stopping) (status : Status) :
    Ledger (s.emit (.stopReturned status)) :=
  h.emit hp.2.2.1 ⟨hp.2.2.1, hp.2.2.2.1⟩

theorem joinPublisher (h : Ledger s) (hp : s.publisher = .finished) :
    Ledger { s.emit .joinPublisher with publisher := .joined } := by
  have ha : Allowed s.events .joinPublisher := by
    by_contra hsp
    simp [h.spawned.mpr hsp] at hp
  obtain ⟨l1, l2, l3, l4, l5, l6, l7, l8, l9, l10, l11, l12, l13, l14⟩ := h
  constructor
  case ordered => exact l14.append_singleton ha
  all_goals simp_all [Core.emit]

theorem destroy (h : Ledger s) {handle : Handle} (hu : Usable s.events (some handle))
    (hq : Holds s .quiet) (hst : Holds s .stopped) :
    Ledger { s.emit (.destroy (some handle)) with handle := none } := by
  have hdropped : Ledger { s with handle := none } :=
    { h with
      unclaimed := fun hc => ⟨rfl, (h.unclaimed hc).2⟩
      stopReturn := fun r hr => ⟨(h.stopReturn r hr).1, rfl, (h.stopReturn r hr).2.2⟩
      live := nofun }
  exact hdropped.emit rfl ⟨hu, fun hs => hst (h.started.mpr hs), h.joined_of_quiet hq⟩

theorem clear (h : Ledger s) (hq : Holds s .quiet) :
    Ledger (s.emit .clearSink) ∧ Ledger (s.emit .clearNotifier) :=
  ⟨h.emit trivial (h.joined_of_quiet hq), h.emit trivial (h.joined_of_quiet hq)⟩

theorem returnStart (h : Ledger s) (hc : Holds s .closed) {result : Bool}
    (hf : result = true → Holds s .first) : Ledger (s.emit (.returnStart result)) :=
  h.emit hc fun hr => Bool.eq_false_of_not_eq_true fun ht => hf ht hr

theorem returnStop (h : Ledger s) {result : Bool} (ht : Holds s .terminal) (hg : Holds s .gone)
    (hq : Holds s .quiet) (hst : Holds s .stopped) (hv : Holds s (.verdict result)) :
    Ledger (s.emit (.returnStop result)) :=
  h.emit ⟨ht, hg, hq, hst, hv⟩ fun earlier he =>
    Bool.not_inj (hv.symm.trans (h.stopReturn earlier he).2.2.2.2)

end Ledger
end RoboBaton.Imu
