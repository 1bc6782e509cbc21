import RoboBaton.Imu.Dispatch
import RoboBaton.Imu.Lifecycle

/-! After a good stop of the driver the publisher empties the ring before it ends: the flag
it waits for is set only when no callback can run any more. -/

namespace RoboBaton.Imu
open WrapRing Trace Transition
variable {P : Type}

structure DriverQuiet (s : Core P) : Prop where
  stoppedOk : .stopReturned statusOk ∈ s.events → s.driver.stoppedOk = true
  inCallback : s.driver.stoppedOk = true → s.driver.inCallback = false

/-- A failure is on record, or the driver was never started, or its stop was over when the
publisher left: if that stop returned OK, the sink has seen every admitted sample. -/
def Drained (s : Core P) : Prop :=
  s.failed = true ∨ s.terminal = true ∧ s.startAttempted = false ∨
    ∃ status, .stopReturned status ∈ s.events ∧
      (status = statusOk → s.handed = s.admitted.map (·.sample))

def DrainPc (s : Core P) : PublisherPc P → Prop
  | .reloadWrite _ => s.publisherStop = true
  | .exchangeNotified | .callNotifier => s.failed = true
  | .finished => Drained s
  | .record _ then_ => DrainPc s then_
  | _ => True

structure DrainOk (s : Core P) (l : PublisherPc P) : Prop where
  finished : s.publisher = .finished ∨ s.publisher = .joined → l = .finished
  pc : DrainPc s l

theorem DrainPc.congr {s s' : Core P} {l : PublisherPc P}
    (hfailed : s.failed = true → s'.failed = true)
    (hstop : s.publisherStop = true → s'.publisherStop = true) (hdrained : Drained s → Drained s')
    (h : DrainPc s l) : DrainPc s' l := by
  induction l with
  | reloadWrite => exact hstop h
  | exchangeNotified | callNotifier => exact hfailed h
  | finished => exact hdrained h
  | record _ _ ih => exact ih h
  | _ => trivial

@[simp] theorem drainPc_recordIf (s t : Core P) (accesses : List Metrics.Access)
    (then_ : PublisherPc P) : DrainPc s (recordIf t accesses then_) ↔ DrainPc s then_ := by
  unfold recordIf
  split <;> rfl

/-! ### The callers -/

theorem exec_flags {s s' : Core P} {op : OwnerOp} {rest ops : List OwnerOp} {r : Reply}
    (h : op.exec s rest r = some (s', ops)) :
    (s.failed = true → s'.failed = true) ∧ (s.publisherStop = true → s'.publisherStop = true) ∧
      (s'.publisher = s.publisher ∨ s'.publisher = .running ∨
        s.publisher = .finished ∧ s'.publisher = .joined) ∧
      (op ≠ .driverStart → s.terminal = true ∧ s.startAttempted = false →
        s'.terminal = true ∧ s'.startAttempted = false) := by
  cases exec_step h with
  | storeFailed => exact ⟨fun _ => rfl, id, .inl rfl, fun _ => id⟩
  | storePublisherStop => exact ⟨id, fun _ => rfl, .inl rfl, fun _ => id⟩
  | spawned => exact ⟨id, id, .inr (.inl rfl), fun _ => id⟩
  | joined hfinished => exact ⟨id, id, .inr (.inr ⟨hfinished, rfl⟩), fun _ => id⟩
  | stopDriver | stopIdle | setTerminal => exact ⟨id, id, .inl rfl, fun _ hidle => ⟨rfl, hidle.2⟩⟩
  | driverStart => exact ⟨id, id, .inl rfl, fun hne => absurd rfl hne⟩
  | _ => exact ⟨id, id, .inl rfl, fun _ => id⟩

theorem exec_quiet {s s' : Core P} {op : OwnerOp} {rest ops : List OwnerOp} {r : Reply}
    (hq : DriverQuiet s) (h : op.exec s rest r = some (s', ops)) : DriverQuiet s' := by
  cases exec_step h with
  | driverStopped site hin => exact ⟨fun _ => rfl, fun _ => hin⟩
  | driverStopFailed site code hcode =>
    refine ⟨fun hmem => hq.stoppedOk ?_, hq.inCallback⟩
    simpa [Core.emit, Core.incident, hcode.symm] using hmem
  | _ => exact ⟨fun hmem => hq.stoppedOk (by simpa [Core.emit] using hmem), hq.inCallback⟩

theorem exec_drain {s s' : Core P} {op : OwnerOp} {rest ops : List OwnerOp} {r : Reply}
    {l : PublisherPc P} (hd : DrainOk s l) (hopen : op = .driverStart → s.terminal = false)
    (h : op.exec s rest r = some (s', ops)) : DrainOk s' l := by
  obtain ⟨hpub, hl⟩ := hd
  obtain ⟨hfailed, hstop, hstatus, hidle⟩ := exec_flags h
  obtain ⟨-, hadm, -, hhanded, -⟩ := exec_dispatch h
  constructor
  · intro hp
    rcases hstatus with he | he | ⟨he, -⟩
    · exact hpub (he ▸ hp)
    · simp [he] at hp
    · exact hpub (.inl he)
  · refine hl.congr hfailed hstop ?_
    rintro (hf | hi | ⟨status, hmem, hall⟩)
    · exact .inl (hfailed hf)
    · refine .inr (.inl (hidle ?_ hi))
      rintro rfl
      simp [hopen rfl] at hi
    · refine .inr (.inr ⟨status, (exec_events h).subset hmem, ?_⟩)
      rw [hadm, hhanded]
      exact hall

/-! ### The callback -/

theorem trampoline_quiet {a : ProducerAct P} {s s' : Core P} {l l' : ProducerPc P}
    (hq : DriverQuiet s) (h : sampleTrampoline a s l = some (s', l')) : DriverQuiet s' := by
  cases sampleTrampoline_step h with
  | enterCounted sample nowNs hcalled hrunning | enter sample nowNs hcalled hrunning =>
    exact ⟨hq.stoppedOk, fun hs => absurd (hrunning.symm.trans hs) (by decide)⟩
  | refuse | storeWrite | storeFailed => exact ⟨hq.stoppedOk, fun _ => rfl⟩
  | _ => exact ⟨hq.stoppedOk, hq.inCallback⟩

theorem no_trampoline_step {a : ProducerAct P} {s s' : Core P} {l l' : ProducerPc P}
    (hq : DriverQuiet s) (hl : ProducerOk s l) (hstop : .stopReturned statusOk ∈ s.events)
    (h : sampleTrampoline a s l = some (s', l')) : False := by
  have hs := hq.stoppedOk hstop
  have hin := hq.inCallback hs
  cases sampleTrampoline_step h with
  | enterCounted sample nowNs hcalled hrunning | enter sample nowNs hcalled hrunning =>
    exact absurd (hrunning.symm.trans hs) (by decide)
  | _ => simp [ProducerOk, hin] at hl

theorem trampoline_drain {a : ProducerAct P} {s s' : Core P} {k k' : ProducerPc P}
    {l : PublisherPc P} (hq : DriverQuiet s) (hk : ProducerOk s k) (hd : DrainOk s l)
    (h : sampleTrampoline a s k = some (s', k')) : DrainOk s' l := by
  obtain ⟨hpub, hl⟩ := hd
  obtain ⟨hf, hp⟩ := sampleTrampoline_frame h
  have hfailed : s.failed = true → s'.failed = true := by
    cases sampleTrampoline_step h with
    | storeFailed => exact fun _ => rfl
    | _ => exact id
  refine ⟨fun hp' => hpub (hp ▸ hp'), hl.congr hfailed (fun h => hf.publisherStop.trans h) ?_⟩
  rintro (hl | hl | ⟨status, hmem, -⟩)
  · exact .inl (hfailed hl)
  · refine .inr (.inl ?_)
    rw [hf.terminal, hf.startAttempted]
    exact hl
  · refine .inr (.inr ⟨status, hf.events ▸ hmem, ?_⟩)
    rintro rfl
    exact (no_trampoline_step hq hk hmem h).elim

/-! ### The publisher -/

theorem drained_of_empty {s : Core P} (hL : Ledger s) (hr : RingOk s)
    (hstop : s.publisherStop = true) (hempty : s.ring.read = s.ring.write)
    (hh : s.handed = takenSamples s) : Drained s := by
  rcases hL.publisherStop hstop with ⟨status, hmem⟩ | hidle
  · refine .inr (.inr ⟨status, hmem, fun _ => ?_⟩)
    rw [hh, takenSamples, (hr.empty_iff capacity_lt).mp hempty, List.take_length]
  · exact .inr (.inl hidle)

theorem publisher_drain {t : Bool} {a : PublisherAct} {s s' : Core P} {l l' : PublisherPc P}
    (hrun : s.publisher = .running) (hL : Ledger s) (hr : RingOk s) (hp : PublisherOk s l)
    (hl : DrainPc s l) (h : publishLoop t a s l = some (s', l')) : DrainOk s' l' := by
  have hrunning : ∀ l' : PublisherPc P, s.publisher = .finished ∨ s.publisher = .joined →
      l' = .finished := by
    intro l' hf
    simp [hrun] at hf
  cases publishLoop_step h with
  | access spurious access accesses then_ =>
    exact ⟨hrunning _, DrainPc.congr (s := s) (l := then_) id id id hl⟩
  | notify => exact ⟨hrunning _, hl⟩
  | leave | callNotifier => exact ⟨fun _ => rfl, .inl hl⟩
  | stopping read hstop => exact ⟨hrunning _, hstop⟩
  | drained read hempty =>
    obtain ⟨rfl, hh⟩ := hp
    have hdrained : Drained s := drained_of_empty hL hr hl hempty hh
    exact ⟨fun _ => rfl, hdrained⟩
  | storeFailed => exact ⟨hrunning _, rfl⟩
  | recorded => exact ⟨hrunning _, hl⟩
  | storeRead | publishImu | throwPublish | publishTemperature | throwTemperature =>
    exact ⟨hrunning _, (drainPc_recordIf _ _ _ _).mpr trivial⟩
  | _ => exact ⟨hrunning _, trivial⟩

/-! ### Whole runs -/

section Reached
variable [Inhabited P] {t : Bool} {s : State P}

theorem reachable_drain (h : (threads P t).Reachable s) :
    DriverQuiet s.shared ∧ DrainOk s.shared (s.locals .publisher) := by
  refine Threads.Reachable.focus (T := threads P t) (i := .publisher)
    (J := fun s l => DriverQuiet s ∧ DrainOk s l) ⟨⟨?_, fun _ => rfl⟩, ?_, trivial⟩ ?_ ?_ h
  · simp [threads, Core.init]
  · simp [threads, Core.init]
  · intro s a s' l' hs hJ hst
    obtain ⟨hrun, hstep⟩ := threads_publisher hst
    obtain ⟨hring, -, hpub⟩ := reachable_dispatch hs
    obtain ⟨hf, hd⟩ := publishLoop_frame hstep
    refine ⟨⟨?_, ?_⟩, publisher_drain hrun (reachable_owner hs).1 hring hpub hJ.2.pc hstep⟩
    · rw [hf.events, hd]
      exact hJ.1.stoppedOk
    · rw [hd]
      exact hJ.1.inCallback
  · intro s j a s' l' hj hs hJ hst
    cases j with
    | publisher => exact absurd rfl hj
    | producer =>
      exact ⟨trampoline_quiet hJ.1 hst, trampoline_drain hJ.1 (reachable_dispatch hs).2.1 hJ.2 hst⟩
    | owner =>
      rcases ownerStep_cases hst with ⟨rfl, -⟩ | ⟨op, ops, r, hops, he, -⟩
      · exact hJ
      · refine ⟨exec_quiet hJ.1 he, exec_drain hJ.2 ?_ he⟩
        rintro rfl
        have hsafe := (reachable_owner hs).2.safe
        rw [hops] at hsafe
        exact hsafe.1 .opened (by simp)

theorem stopReturned_unique {es : List Event} (ho : Ordered Allowed es) {x y : Status}
    (hx : .stopReturned x ∈ es) (hy : .stopReturned y ∈ es) : x = y := by
  have he := ho.unique (p := Event.isStopReturned) (fun pre e he hok z hz => ?_) hx hy rfl rfl
  · exact Event.stopReturned.inj he
  · cases e <;> try cases he
    cases z <;> first | rfl | exact (hok.2 ⟨_, hz⟩).elim

/-- The dispatch ring: bounded, never overwritten before the publisher has taken the sample,
delivered in order, and emptied by a good stop. -/
structure DispatchRing (t : Bool) (s : State P) : Prop where
  bounded : (s.shared.ring.write - s.shared.ring.read).toNat ≤ kPendingCapacity
  kept : ∀ e u, (threads P t).next e s = some u →
    ∀ k, s.shared.taken ≤ k → k < s.shared.admitted.length →
      u.shared.ring.slots (Fin.ofNat kPendingCapacity k) =
        s.shared.ring.slots (Fin.ofNat kPendingCapacity k)
  delivered : s.shared.handed <+: s.shared.admitted.map (·.sample)
  drained : (∃ result, .returnStop result ∈ s.shared.events) →
    .stopReturned statusOk ∈ s.shared.events → s.shared.failed = false →
    s.shared.handed = s.shared.admitted.map (·.sample)

theorem slots_kept (h : (threads P t).Reachable s) {e : Σ i, Act P i} {u : State P}
    (hn : (threads P t).next e s = some u) {k : Nat} (hk : s.shared.taken ≤ k)
    (hlt : k < s.shared.admitted.length) :
    u.shared.ring.slots (Fin.ofNat kPendingCapacity k) =
      s.shared.ring.slots (Fin.ofNat kPendingCapacity k) := by
  have hu : (threads P t).Reachable u := h.next hn
  obtain ⟨i, a⟩ := e
  obtain ⟨c, l, hst, rfl⟩ := Threads.next_eq_some hn
  cases i with
  | owner => rw [(ownerStep_dispatch hst).1]
  | publisher => rw [(publishLoop_dispatch (threads_publisher hst).2).2.2.1]
  | producer =>
    obtain ⟨htaken, -, -, more, hmore⟩ := sampleTrampoline_dispatch hst
    have hlen : k < c.admitted.length := by
      rw [← hmore, List.length_append]
      omega
    have hnew : c.ring.slots (Fin.ofNat kPendingCapacity k) = c.admitted[k] :=
      (reachable_dispatch hu).1.slot k hlen (htaken.trans_le hk)
    have hold := (reachable_dispatch h).1.slot k hlt hk
    show c.ring.slots _ = _
    rw [hnew, hold]
    simp only [← hmore, List.getElem_append_left hlt]

theorem stopped_drained (h : (threads P t).Reachable s)
    (hret : ∃ result, .returnStop result ∈ s.shared.events)
    (hok : .stopReturned statusOk ∈ s.shared.events) :
    s.locals .publisher = (.finished : PublisherPc P) ∧
      (s.shared.failed = false → s.shared.handed = s.shared.admitted.map (·.sample)) := by
  obtain ⟨hL, -⟩ := reachable_owner h
  obtain ⟨-, hdrain⟩ := reachable_drain h
  obtain ⟨result, hret⟩ := hret
  have hstarted : s.shared.startAttempted = true := hL.stopped (hL.stopReturned ⟨_, hok⟩)
  have hjoined : s.shared.publisher = .joined := by
    rcases (hL.stopReturn result hret).2.2.1 with hp | hp
    · exact absurd (hL.unspawned hp) (by simp [hstarted])
    · exact hp
  have hfin : s.locals .publisher = (.finished : PublisherPc P) := hdrain.finished (.inr hjoined)
  have hdrained : DrainPc s.shared (.finished : PublisherPc P) := hfin ▸ hdrain.pc
  refine ⟨hfin, fun hfailed => ?_⟩
  rcases hdrained with hf | ⟨-, hidle⟩ | ⟨status, hmem, hall⟩
  · exact absurd (hfailed.symm.trans hf) (by decide)
  · exact absurd (hidle.symm.trans hstarted) (by decide)
  · exact hall (stopReturned_unique hL.ordered hmem hok)

theorem dispatch_ring (h : (threads P t).Reachable s) : DispatchRing t s := by
  obtain ⟨hring, -, hpub⟩ := reachable_dispatch h
  constructor
  case bounded => exact hring.occupancy_le capacity_lt
  case kept => exact fun e u hn k hk hlt => slots_kept h hn hk hlt
  case delivered =>
    refine hpub.handed_prefix.trans ?_
    exact (List.take_prefix _ _).map _
  case drained => exact fun hret hok hfailed => (stopped_drained h hret hok).2 hfailed

theorem dispatch_ring_oneSample :
    oneSampleEnd.shared.handed = [⟨sampleStructSize, 5, ()⟩] ∧ DispatchRing false oneSampleEnd :=
  ⟨rfl, dispatch_ring (System.reachable_get _)⟩

end Reached
end RoboBaton.Imu
