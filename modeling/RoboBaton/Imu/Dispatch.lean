import RoboBaton.Imu.Frames

/-! The dispatch ring: what the callback admitted and the publisher has not yet taken is in
the ring, and what the publisher has taken has gone to the sink, in order. -/

namespace RoboBaton.Imu
open WrapRing Metrics
variable {P : Type}

theorem capacity_dvd : kPendingCapacity ∣ 2 ^ 64 := by decide

theorem capacity_lt : kPendingCapacity < 2 ^ 64 := by decide

def RingOk (s : Core P) : Prop := s.ring.Holds s.admitted s.taken

def takenSamples (s : Core P) : List (Sample P) := (s.admitted.take s.taken).map (·.sample)

def ProducerOk (s : Core P) : ProducerPc P → Prop
  | .idle => s.driver.inCallback = false
  | .loadRead _ write => s.driver.inCallback = true ∧ write = s.ring.write
  | .fillSlot _ write => s.driver.inCallback = true ∧ write = s.ring.write ∧
      s.admitted.length < s.taken + kPendingCapacity
  | .storeWrite pending write => s.driver.inCallback = true ∧ write = s.ring.write ∧
      s.admitted.length < s.taken + kPendingCapacity ∧
      s.ring.slots (slotOf kPendingCapacity s.ring.write) = pending
  | _ => s.driver.inCallback = true

/-- Where the publisher is: between the release of a slot and the call of the sink it owes
the sink one sample, everywhere else on the normal path none. -/
def PublisherOk (s : Core P) : PublisherPc P → Prop
  | .loadFailed | .loadRead | .stampImu | .publishImu | .publishTemperature =>
      s.handed = takenSamples s
  | .loadWrite read | .loadStop read | .reloadWrite read =>
      read = s.ring.read ∧ s.handed = takenSamples s
  | .copySlot read =>
      read = s.ring.read ∧ s.taken < s.admitted.length ∧ s.handed = takenSamples s
  | .storeRead read pending =>
      read = s.ring.read ∧ s.admitted[s.taken]? = some pending ∧ s.handed = takenSamples s
  | .record _ then_ => PublisherOk s then_
  | .callSink pending => s.handed ++ [pending.sample] = takenSamples s
  | .closeAdmission | .storeFailed | .exchangeNotified | .callNotifier | .finished =>
      s.handed <+: takenSamples s

theorem takenSamples_of_prefix {s s' : Core P} (hr : RingOk s) (ht : s'.taken = s.taken)
    (ha : s.admitted <+: s'.admitted) : takenSamples s' = takenSamples s := by
  obtain ⟨more, hmore⟩ := ha
  rw [takenSamples, takenSamples, ht, ← hmore, List.take_append_of_le_length hr.taken_le]

theorem PublisherOk.handed_prefix {s : Core P} {l : PublisherPc P} (h : PublisherOk s l) :
    s.handed <+: takenSamples s := by
  induction l with
  | record _ _ ih => exact ih h
  | callSink pending => exact h ▸ List.prefix_append _ _
  | loadWrite | loadStop | reloadWrite => exact h.2 ▸ List.prefix_refl _
  | copySlot | storeRead => exact h.2.2 ▸ List.prefix_refl _
  | closeAdmission | storeFailed | exchangeNotified | callNotifier | finished => exact h
  | loadFailed | loadRead | stampImu | publishImu | publishTemperature =>
    exact (show s.handed = takenSamples s from h) ▸ List.prefix_refl _

theorem PublisherOk.congr {s s' : Core P} {l : PublisherPc P} (hr : RingOk s)
    (ht : s'.taken = s.taken) (hh : s'.handed = s.handed) (hread : s'.ring.read = s.ring.read)
    (ha : s.admitted <+: s'.admitted) (h : PublisherOk s l) : PublisherOk s' l := by
  have htaken := takenSamples_of_prefix hr ht ha
  induction l with
  | record _ _ ih => exact ih h
  | copySlot =>
    obtain ⟨h1, h2, h3⟩ := h
    exact ⟨h1.trans hread.symm, by rw [ht]; exact h2.trans_le ha.length_le, by rw [hh, htaken, h3]⟩
  | storeRead _ pending =>
    obtain ⟨h1, h2, h3⟩ := h
    obtain ⟨more, hmore⟩ := ha
    obtain ⟨hlt, -⟩ := List.getElem?_eq_some_iff.mp h2
    refine ⟨h1.trans hread.symm, ?_, by rw [hh, htaken, h3]⟩
    rw [ht, ← hmore, List.getElem?_append_left hlt, h2]
  | loadWrite | loadStop | reloadWrite =>
    exact ⟨h.1.trans hread.symm, by rw [hh, htaken, h.2]⟩
  | callSink pending =>
    show s'.handed ++ [pending.sample] = takenSamples s'
    rw [hh, htaken]
    exact h
  | closeAdmission | storeFailed | exchangeNotified | callNotifier | finished =>
    show s'.handed <+: takenSamples s'
    rw [hh, htaken]
    exact h
  | loadFailed | loadRead | stampImu | publishImu | publishTemperature =>
    show s'.handed = takenSamples s'
    rw [hh, htaken]
    exact h

theorem ProducerOk.congr {s s' : Core P} {l : ProducerPc P} (ha : s'.admitted = s.admitted)
    (hw : s'.ring.write = s.ring.write) (hslots : s'.ring.slots = s.ring.slots)
    (ht : s.taken ≤ s'.taken) (hd : s'.driver.inCallback = s.driver.inCallback)
    (h : ProducerOk s l) : ProducerOk s' l := by
  cases l with
  | loadRead => exact ⟨hd.trans h.1, h.2.trans hw.symm⟩
  | fillSlot =>
    obtain ⟨h1, h2, h3⟩ := h
    exact ⟨hd.trans h1, h2.trans hw.symm, by rw [ha]; omega⟩
  | storeWrite =>
    obtain ⟨h1, h2, h3, h4⟩ := h
    exact ⟨hd.trans h1, h2.trans hw.symm, by rw [ha]; omega, by rw [hw, hslots]; exact h4⟩
  | _ => exact hd.trans h

theorem producer_ringOk {a : ProducerAct P} {s s' : Core P} {l l' : ProducerPc P}
    (hr : RingOk s) (hl : ProducerOk s l) (h : sampleTrampoline a s l = some (s', l')) :
    RingOk s' ∧ ProducerOk s' l' := by
  cases sampleTrampoline_step h with
  | enterCounted | enter | refuse | storeFailed => exact ⟨hr, rfl⟩
  | loadWrite pending => exact ⟨hr, hl, rfl⟩
  | full pending write => exact ⟨hr, hl.1⟩
  | room pending write hfull =>
    obtain ⟨hin, rfl⟩ := hl
    rw [Ne, hr.full_iff capacity_lt] at hfull
    have hroom := hr.room
    exact ⟨hr, hin, rfl, by omega⟩
  | fillSlot pending write =>
    obtain ⟨hin, rfl, hroom⟩ := hl
    exact ⟨hr.putSlot capacity_dvd hroom pending, hin, rfl, hroom, by simp [Ring.putSlot]⟩
  | storeWrite pending write =>
    obtain ⟨hin, rfl, hroom, hslot⟩ := hl
    exact ⟨hr.advanceWrite capacity_dvd hroom hslot, rfl⟩
  | _ => exact ⟨hr, hl⟩

@[simp] theorem publisherOk_recordIf (s t : Core P) (accesses : List Access)
    (then_ : PublisherPc P) : PublisherOk s (recordIf t accesses then_) ↔ PublisherOk s then_ := by
  unfold recordIf
  split <;> rfl

theorem takenSamples_advance {s : Core P} {pending : PendingSample P}
    (hp : s.admitted[s.taken]? = some pending) (hh : s.handed = takenSamples s) (r : BitVec 64) :
    s.handed ++ [pending.sample] =
      takenSamples { s with ring := s.ring.advanceRead r, taken := s.taken + 1 } := by
  simp only [hh, takenSamples, List.take_add_one, hp, Option.toList_some, List.map_append,
    List.map_cons, List.map_nil]

theorem publisher_ringOk {t : Bool} {a : PublisherAct} {s s' : Core P} {l l' : PublisherPc P}
    (hr : RingOk s) (hl : PublisherOk s l) (h : publishLoop t a s l = some (s', l')) :
    RingOk s' ∧ PublisherOk s' l' := by
  cases publishLoop_step h with
  | loadRead => exact ⟨hr, rfl, hl⟩
  | nonempty read hne =>
    obtain ⟨rfl, hh⟩ := hl
    have hle := hr.taken_le
    rw [Ne, hr.empty_iff capacity_lt] at hne
    exact ⟨hr, rfl, by omega, hh⟩
  | copySlot read =>
    obtain ⟨rfl, hlt, hh⟩ := hl
    refine ⟨hr, rfl, ?_, hh⟩
    rw [hr.front_eq capacity_dvd hlt]
    exact List.getElem?_eq_getElem hlt
  | storeRead read pending =>
    obtain ⟨rfl, hp, hh⟩ := hl
    obtain ⟨hlt, -⟩ := List.getElem?_eq_some_iff.mp hp
    exact ⟨hr.advanceRead hlt, (publisherOk_recordIf _ _ _ _).mpr (takenSamples_advance hp hh _)⟩
  | access spurious access accesses then_ =>
    exact ⟨hr, hl.congr hr rfl rfl rfl (List.prefix_refl _)⟩
  | publishImu latencyNs => exact ⟨hr, (publisherOk_recordIf _ _ _ _).mpr hl⟩
  | publishTemperature => exact ⟨hr, (publisherOk_recordIf _ _ _ _).mpr hl⟩
  | throwPublish | throwTemperature =>
    exact ⟨hr, (publisherOk_recordIf _ _ _ _).mpr hl.handed_prefix⟩
  -- where the publisher leaves the normal path, what it handed over is a prefix of what it took
  | failed | noSink | throwStamp => exact ⟨hr, hl.handed_prefix⟩
  | again read | refilled read => exact ⟨hr, hl.2⟩
  | drained read => exact ⟨hr, hl.2 ▸ List.prefix_refl _⟩
  | _ => exact ⟨hr, hl⟩

theorem reachable_dispatch [Inhabited P] {t : Bool} {s} (h : (threads P t).Reachable s) :
    RingOk s.shared ∧ ProducerOk s.shared (s.locals .producer) ∧
      PublisherOk s.shared (s.locals .publisher) := by
  let J : ∀ i, Core P → Local P i → Prop
    | .owner, _, _ => True
    | .producer, s, l => ProducerOk s l
    | .publisher, s, l => PublisherOk s l
  have key := Transition.Threads.Reachable.outline (T := threads P t) (I := RingOk) (J := J)
    ⟨⟨rfl, rfl, le_rfl, Nat.zero_le _, by simp [threads, Core.init]⟩, by
      rintro (_ | _ | _) <;> trivial⟩ ?_ ?_ h
  · exact ⟨key.1, key.2 .producer, key.2 .publisher⟩
  · intro s i a s' l' _ hI hJ hst
    cases i with
    | owner =>
      obtain ⟨hring, hadm, htaken, -⟩ := ownerStep_dispatch hst
      refine ⟨?_, trivial⟩
      rw [RingOk, hring, hadm, htaken]
      exact hI
    | producer => exact producer_ringOk hI hJ hst
    | publisher => exact publisher_ringOk hI hJ (threads_publisher hst).2
  · intro s i a s' l' _ hI hJ hst j hj hother
    cases i with
    | owner =>
      obtain ⟨hring, hadm, htaken, hhanded, hin⟩ := ownerStep_dispatch hst
      cases j with
      | owner => exact (hj rfl).elim
      | producer =>
        exact ProducerOk.congr hadm (congrArg _ hring) (congrArg _ hring) htaken.ge hin hother
      | publisher =>
        exact PublisherOk.congr hI htaken hhanded (congrArg _ hring)
          (hadm ▸ List.prefix_refl _) hother
    | producer =>
      obtain ⟨htaken, hhanded, hread, hadm⟩ := sampleTrampoline_dispatch hst
      cases j with
      | owner => trivial
      | producer => exact (hj rfl).elim
      | publisher => exact PublisherOk.congr hI htaken hhanded hread hadm hother
    | publisher =>
      have hst' := (threads_publisher hst).2
      obtain ⟨hadm, hwrite, hslots, htaken⟩ := publishLoop_dispatch hst'
      cases j with
      | owner => trivial
      | producer =>
        exact ProducerOk.congr hadm hwrite hslots htaken
          (by rw [(publishLoop_frame hst').2]) hother
      | publisher => exact (hj rfl).elim

end RoboBaton.Imu
