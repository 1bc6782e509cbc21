import RoboBaton.Imu.Steps

/-! What each thread of the IMU core leaves alone. -/

namespace RoboBaton.Imu
open WrapRing Metrics
variable {P : Type}

structure OwnerFrame (s s' : Core P) : Prop where
  publisherStop : s'.publisherStop = s.publisherStop
  handle : s'.handle = s.handle
  sink : s'.sink = s.sink
  notifier : s'.notifier = s.notifier
  stopFailed : s'.stopFailed = s.stopFailed
  metricsEnabled : s'.metricsEnabled = s.metricsEnabled
  startClaimed : s'.startClaimed = s.startClaimed
  startAttempted : s'.startAttempted = s.startAttempted
  terminal : s'.terminal = s.terminal
  startCalled : s'.driver.startCalled = s.driver.startCalled
  stoppedOk : s'.driver.stoppedOk = s.driver.stoppedOk
  events : s'.events = s.events

theorem sampleTrampoline_frame {a : ProducerAct P} {s s' : Core P} {l l' : ProducerPc P}
    (h : sampleTrampoline a s l = some (s', l')) :
    OwnerFrame s s' ∧ s'.publisher = s.publisher := by
  cases sampleTrampoline_step h <;> exact ⟨by constructor <;> rfl, rfl⟩

theorem sampleTrampoline_dispatch {a : ProducerAct P} {s s' : Core P} {l l' : ProducerPc P}
    (h : sampleTrampoline a s l = some (s', l')) :
    s'.taken = s.taken ∧ s'.handed = s.handed ∧ s'.ring.read = s.ring.read ∧
      s.admitted <+: s'.admitted := by
  cases sampleTrampoline_step h with
  | storeWrite pending write => exact ⟨rfl, rfl, rfl, List.prefix_append _ _⟩
  | _ => exact ⟨rfl, rfl, rfl, List.prefix_refl _⟩

theorem publishLoop_frame {t : Bool} {a : PublisherAct} {s s' : Core P} {l l' : PublisherPc P}
    (h : publishLoop t a s l = some (s', l')) :
    OwnerFrame s s' ∧ s'.driver = s.driver := by
  cases publishLoop_step h <;> exact ⟨by constructor <;> rfl, rfl⟩

theorem publishLoop_dispatch {t : Bool} {a : PublisherAct} {s s' : Core P} {l l' : PublisherPc P}
    (h : publishLoop t a s l = some (s', l')) :
    s'.admitted = s.admitted ∧ s'.ring.write = s.ring.write ∧ s'.ring.slots = s.ring.slots ∧
      s.taken ≤ s'.taken := by
  cases publishLoop_step h with
  | storeRead read pending => exact ⟨rfl, rfl, rfl, Nat.le_succ _⟩
  | _ => exact ⟨rfl, rfl, rfl, le_rfl⟩

theorem exec_dispatch {s s' : Core P} {rest ops : List OwnerOp} {op : OwnerOp} {r : Reply}
    (h : op.exec s rest r = some (s', ops)) :
    s'.ring = s.ring ∧ s'.admitted = s.admitted ∧ s'.taken = s.taken ∧ s'.handed = s.handed ∧
      s'.driver.inCallback = s.driver.inCallback := by
  cases exec_step h <;> exact ⟨rfl, rfl, rfl, rfl, rfl⟩

theorem ownerStep_cases {a : OwnerAct} {s s' : Core P} {l l' : OwnerLocal}
    (h : ownerStep a s l = some (s', l')) :
    (s' = s ∧ l.ops = [] ∧ l.destructed = false ∧
      ((∃ config sink notifier, l' = ⟨[.startGuard config sink notifier], false⟩) ∨
        ∃ d, l' = ⟨[.stopGuard], d⟩)) ∨
    ∃ op ops r, l.ops = op :: ops ∧ op.exec s ops r = some (s', l'.ops) ∧
      l'.destructed = l.destructed := by
  unfold ownerStep at h
  split at h
  · cases h
    exact .inl ⟨rfl, rfl, rfl, .inl ⟨_, _, _, rfl⟩⟩
  · cases h
    exact .inl ⟨rfl, rfl, rfl, .inr ⟨_, rfl⟩⟩
  · cases h
    exact .inl ⟨rfl, rfl, rfl, .inr ⟨_, rfl⟩⟩
  · obtain ⟨⟨t, ops'⟩, he, hx⟩ := Option.map_eq_some_iff.mp h
    cases hx
    exact .inr ⟨_, _, _, rfl, he, rfl⟩
  · cases h

theorem ownerStep_dispatch {a : OwnerAct} {s s' : Core P} {l l' : OwnerLocal}
    (h : ownerStep a s l = some (s', l')) :
    s'.ring = s.ring ∧ s'.admitted = s.admitted ∧ s'.taken = s.taken ∧ s'.handed = s.handed ∧
      s'.driver.inCallback = s.driver.inCallback := by
  obtain ⟨rfl, -⟩ | ⟨op, ops, r, -, he, -⟩ := ownerStep_cases h
  · exact ⟨rfl, rfl, rfl, rfl, rfl⟩
  · exact exec_dispatch he

theorem threads_publisher [Inhabited P] {t : Bool} {a : PublisherAct} {s s' : Core P}
    {l l' : PublisherPc P} (h : (threads P t).step .publisher a s l = some (s', l')) :
    s.publisher = .running ∧ publishLoop t a s l = some (s', l') := by
  change (if s.publisher = .running then publishLoop t a s l else none :
    Option (Core P × PublisherPc P)) = some (s', l') at h
  exact Option.ite_none_right_eq_some.mp h

end RoboBaton.Imu
