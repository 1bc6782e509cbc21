import RoboBaton.Imu.Drain
import RoboBaton.Library.Outputs
import RoboBaton.Timestamp.Stamp

/-! What the subscribers of the IMU topics get, sample by sample, whatever the acquisition callback
and the callers of `Start` and `Stop` do meanwhile. -/

namespace RoboBaton.Imu
open Transition
variable {P : Type} {s s' : Core P} {temperature : Bool}

/-! ### Messages -/

/-- `sensor_msgs::msg::Imu` and `sensor_msgs::msg::Temperature`, with the measurements that they
take from `body`. -/
inductive Message (P : Type)
  | imu (stamp : Timestamp.RosStampParts) (frameId : String) (body : P)
  | temperature (stamp : Timestamp.RosStampParts) (frameId : String) (body : P)
  deriving DecidableEq, Repr

def publishSample (frameId : String) (snapshot : Timestamp.Snapshot) (temperature : Bool)
    (sample : Sample P) : List (Message P) :=
  match Timestamp.stamp snapshot sample.sampleTimestampNs with
  | .ok stamp =>
    .imu stamp frameId sample.body ::
      if temperature then [.temperature stamp frameId sample.body] else []
  | .error _ => []

def Message.imuStamp? : Message P → Option Timestamp.RosStampParts
  | .imu stamp _ _ => some stamp
  | .temperature _ _ _ => none

inductive Output (P : Type)
  | imu (sample : Sample P)
  | temperature (sample : Sample P)

def Output.message (frameId : String) (snapshot : Timestamp.Snapshot) :
    Output P → Option (Message P)
  | .imu sample => (Timestamp.stamp snapshot sample.sampleTimestampNs).toOption.map fun stamp =>
    .imu stamp frameId sample.body
  | .temperature sample =>
    (Timestamp.stamp snapshot sample.sampleTimestampNs).toOption.map fun stamp =>
      .temperature stamp frameId sample.body

def render (temperature : Bool) (sample : Sample P) : List (Output P) :=
  .imu sample :: if temperature then [.temperature sample] else []

theorem render_message (frameId : String) (snapshot : Timestamp.Snapshot) (temperature : Bool)
    (sample : Sample P) : (render temperature sample).filterMap (Output.message frameId snapshot) =
      publishSample frameId snapshot temperature sample := by
  unfold render publishSample
  cases hstamp : Timestamp.stamp snapshot sample.sampleTimestampNs <;> cases temperature <;>
    simp [Output.message, hstamp, Except.toOption]

/-! ### The publisher thread -/

def puts (temperature : Bool) (s : Core P) : PublisherPc P → PublisherAct → List (Output P)
  | .publishImu, .returns _ => s.handed.getLast?.toList.map .imu
  | .publishTemperature, .step =>
    if temperature then s.handed.getLast?.toList.map .temperature else []
  | _, _ => []

/-- What has been put out when the publisher is at a given point. Only a failure ends the thread
with a sample in its hands. -/
def PutOut (temperature : Bool) (s : Core P) (out : List (Output P)) : PublisherPc P → Prop
  | .stampImu | .publishImu => ∃ before sample,
    s.handed = before ++ [sample] ∧ out = before.flatMap (render temperature)
  | .publishTemperature => ∃ before sample, s.handed = before ++ [sample] ∧
    out = before.flatMap (render temperature) ++ [.imu sample]
  | .record _ then_ => PutOut temperature s out then_
  | .closeAdmission | .storeFailed => Cut (render temperature) s.handed out
  | .exchangeNotified | .callNotifier =>
    s.failed = true ∧ Cut (render temperature) s.handed out
  | .finished => Cut (render temperature) s.handed out ∧
    (s.failed = true ∨ out = s.handed.flatMap (render temperature))
  | _ => out = s.handed.flatMap (render temperature)

variable {out : List (Output P)} {l l' : PublisherPc P}

theorem PutOut.cut (h : PutOut temperature s out l) : Cut (render temperature) s.handed out := by
  induction l with
  | record _ _ ih => exact ih h
  | stampImu | publishImu =>
    obtain ⟨before, sample, hhanded, rfl⟩ := h
    rw [hhanded, ← List.append_nil (before.flatMap _)]
    exact cut_concat before sample List.nil_prefix
  | publishTemperature =>
    obtain ⟨before, sample, hhanded, rfl⟩ := h
    rw [hhanded]
    exact cut_concat before sample (List.prefix_append [_] _)
  | closeAdmission | storeFailed => exact h
  | exchangeNotified | callNotifier => exact h.2
  | finished => exact h.1
  | _ =>
    obtain rfl : out = _ := h
    exact cut_full _ _

theorem PutOut.congr (hhanded : s'.handed = s.handed) (hfailed : s.failed = true → s'.failed = true)
    (h : PutOut temperature s out l) : PutOut temperature s' out l := by
  induction l with
  | record _ _ ih => exact ih h
  | exchangeNotified | callNotifier => exact ⟨hfailed h.1, hhanded ▸ h.2⟩
  | finished => exact ⟨hhanded ▸ h.1, h.2.imp hfailed (hhanded ▸ ·)⟩
  | _ =>
    unfold PutOut at h ⊢
    rw [hhanded]
    exact h

theorem putOut_recordIf {t : Core P} {accesses : List Metrics.Access} :
    PutOut temperature s out (recordIf t accesses l) ↔ PutOut temperature s out l := by
  unfold recordIf
  split <;> rfl

theorem PublisherStep.putOut (h : PublisherStep temperature s l s' l') (himu : l ≠ .publishImu)
    (htemperature : l ≠ .publishTemperature) (hout : PutOut temperature s out l) :
    PutOut temperature s' out l' := by
  have hcut := hout.cut
  cases h with
  | failed _ => exact hcut
  | storeRead _ _ => exact putOut_recordIf.mpr hout
  | access _ _ _ then_ => exact PutOut.congr (s := s) (l := then_) rfl id hout
  | callSink pending _ => exact ⟨s.handed, pending.sample, rfl, hout⟩
  | noSink _ _ | throwStamp | closeAdmission => exact hcut
  | storeFailed => exact ⟨rfl, hcut⟩
  | notify _ _ => exact PutOut.congr (s := s) (l := .callNotifier) rfl id hout
  | leave _ | callNotifier => exact ⟨hcut, .inl hout.1⟩
  | drained _ _ => exact ⟨hcut, .inr hout⟩
  | publishImu | throwPublish => exact absurd rfl himu
  | publishTemperature _ | noTemperature _ | throwTemperature _ => exact absurd rfl htemperature
  | _ => exact hout

theorem publishImu_putOut {a : PublisherAct}
    (h : publishLoop temperature a s .publishImu = some (s', l'))
    (hout : PutOut temperature s out .publishImu) :
    PutOut temperature s' (out ++ puts temperature s .publishImu a) l' := by
  have hcut := hout.cut
  obtain ⟨before, sample, hhanded, rfl⟩ := hout
  cases a with
  | returns latencyNs =>
    cases h
    refine putOut_recordIf.mpr ⟨before, sample, hhanded, ?_⟩
    rw [puts, hhanded, List.getLast?_concat]
    rfl
  | throws =>
    cases h
    rw [puts, List.append_nil]
    · exact putOut_recordIf.mpr hcut
    all_goals simp
  | step => cases h
  | spurious => cases h

theorem publishTemperature_putOut {a : PublisherAct}
    (h : publishLoop temperature a s .publishTemperature = some (s', l'))
    (hout : PutOut temperature s out .publishTemperature) :
    PutOut temperature s' (out ++ puts temperature s .publishTemperature a) l' := by
  have hcut := hout.cut
  obtain ⟨before, sample, hhanded, rfl⟩ := hout
  cases a with
  | step =>
    -- the message about the temperature is the last one about the sample
    have hfull : s.handed.flatMap (render temperature) = before.flatMap (render temperature) ++
        ([.imu sample] ++ puts temperature s .publishTemperature .step) := by
      rw [hhanded, List.flatMap_append, List.flatMap_singleton, puts, hhanded,
        List.getLast?_concat]
      rfl
    cases h
    rw [List.append_assoc]
    cases temperature with
    | true => exact putOut_recordIf.mpr hfull.symm
    | false => exact hfull.symm
  | throws =>
    rw [puts, List.append_nil]
    · cases temperature <;> cases h
      exact putOut_recordIf.mpr hcut
    all_goals simp
  | spurious => cases h
  | returns => cases h

theorem publisher_putOut {a : PublisherAct} (h : publishLoop temperature a s l = some (s', l'))
    (hout : PutOut temperature s out l) :
    PutOut temperature s' (out ++ puts temperature s l a) l' := by
  by_cases himu : l = .publishImu
  · subst himu
    exact publishImu_putOut h hout
  by_cases htemperature : l = .publishTemperature
  · subst htemperature
    exact publishTemperature_putOut h hout
  rw [puts, List.append_nil]
  · exact (publishLoop_step h).putOut himu htemperature hout
  · exact fun _ hl => absurd hl himu
  · exact fun hl => absurd hl htemperature

/-! ### All threads -/

section Reached
variable [Inhabited P]

theorem others_putOut {i : Thread} (hi : i ≠ .publisher) {a : Act P i} {k k' : Local P i}
    (h : (threads P temperature).step i a s k = some (s', k'))
    (hout : PutOut temperature s out l) : PutOut temperature s' out l := by
  cases i with
  | publisher => exact absurd rfl hi
  | producer =>
    refine hout.congr (sampleTrampoline_dispatch h).2.1 ?_
    cases sampleTrampoline_step h with
    | storeFailed => exact fun _ => rfl
    | _ => exact id
  | owner =>
    rcases ownerStep_cases h with ⟨rfl, -⟩ | ⟨op, ops, r, -, he, -⟩
    · exact hout
    · exact hout.congr (exec_dispatch he).2.2.2.1 (exec_flags he).1

def publisherOutput (temperature : Bool) (s : State P) : (Σ i, Act P i) → List (Output P)
  | ⟨.publisher, a⟩ => puts temperature s.shared (s.locals .publisher) a
  | _ => []

def publisherOutputs (temperature : Bool) (as : List (Σ i, Act P i)) : List (Output P) :=
  (threads P temperature).toSystem.outputs (publisherOutput temperature) as
    (threads P temperature).toSystem.start

theorem run_putOut {as : List (Σ i, Act P i)} {t : State P}
    (h : (threads P temperature).toSystem.run as (threads P temperature).toSystem.start = some t) :
    PutOut temperature t.shared (publisherOutputs temperature as) (t.locals .publisher) := by
  refine System.outputs_invariant (M := (threads P temperature).toSystem)
    (publisherOutput temperature)
    (P := fun os s => PutOut temperature s.shared os (s.locals .publisher)) ?_ .start rfl h
  rintro os s ⟨i, a⟩ t - hP hn
  obtain ⟨u, l, hst, rfl⟩ := Threads.next_eq_some hn
  by_cases hi : i = .publisher
  · subst hi
    have hput := publisher_putOut (threads_publisher hst).2 hP
    show PutOut temperature u _ (Function.update s.locals .publisher l .publisher)
    rw [Function.update_self]
    exact hput
  · have hnone : publisherOutput temperature s ⟨i, a⟩ = [] := by
      cases i with
      | publisher => exact absurd rfl hi
      | _ => rfl
    show PutOut temperature u (os ++ publisherOutput temperature s ⟨i, a⟩)
      (Function.update s.locals i l .publisher)
    rw [Function.update_of_ne (Ne.symm hi), hnone, List.append_nil]
    exact others_putOut hi hst hP

end Reached

/-! ### The messages of a run -/

section Messages
variable {frameId : String} {snapshot : Timestamp.Snapshot}

theorem message_cut {samples : List (Sample P)} (h : Cut (render temperature) samples out) :
    Cut (publishSample frameId snapshot temperature) samples
      (out.filterMap (Output.message frameId snapshot)) := by
  rw [← funext (render_message frameId snapshot temperature)]
  exact h.filterMap

theorem publishSample_stamps (sample : Sample P) :
    (publishSample frameId snapshot temperature sample).filterMap Message.imuStamp? =
      (Timestamp.stamp snapshot sample.sampleTimestampNs).toOption.toList := by
  unfold publishSample
  cases hstamp : Timestamp.stamp snapshot sample.sampleTimestampNs <;> cases temperature <;>
    simp [Message.imuStamp?, Except.toOption]

theorem stamps_flatMap (samples : List (Sample P)) :
    (samples.flatMap (publishSample frameId snapshot temperature)).filterMap Message.imuStamp? =
      samples.filterMap fun sample =>
        (Timestamp.stamp snapshot sample.sampleTimestampNs).toOption := by
  rw [List.filterMap_flatMap, List.filterMap_eq_flatMap_toList]
  exact congrArg (samples.flatMap ·) (funext publishSample_stamps)

variable [Inhabited P]

def published (frameId : String) (snapshot : Timestamp.Snapshot) (temperature : Bool)
    (as : List (Σ i, Act P i)) : List (Message P) :=
  (publisherOutputs temperature as).filterMap (Output.message frameId snapshot)

structure SampleStreams (frameId : String) (snapshot : Timestamp.Snapshot) (temperature : Bool)
    (s : State P) (published : List (Message P)) : Prop where
  /-- The admitted samples one after the other, each with its temperature behind it. -/
  served : published <+: (s.shared.admitted.map (·.sample)).flatMap
    (publishSample frameId snapshot temperature)
  /-- Of what the publisher was handed at most the last sample is missing, or its temperature. -/
  complete : s.shared.handed.dropLast.flatMap (publishSample frameId snapshot temperature) <+:
    published
  /-- When a good `Stop` returns and nothing has failed, nothing is missing. -/
  drained : (∃ result, .returnStop result ∈ s.shared.events) →
    .stopReturned statusOk ∈ s.shared.events → s.shared.failed = false →
    published = (s.shared.admitted.map (·.sample)).flatMap
      (publishSample frameId snapshot temperature)
  ordered : (s.shared.admitted.map (·.sample)).Pairwise
      (fun a b => a.sampleTimestampNs < b.sampleTimestampNs) →
    (published.filterMap Message.imuStamp?).Pairwise Timestamp.RosStampParts.Before

/-- From the acquisition callback to the topics: no sample is published twice, out of turn or under
another's stamp, and a good stop publishes them all. -/
theorem sample_streams (frameId : String) (snapshot : Timestamp.Snapshot) (temperature : Bool)
    {as : List (Σ i, Act P i)} {s : State P}
    (h : (threads P temperature).toSystem.run as (threads P temperature).toSystem.start = some s) :
    SampleStreams frameId snapshot temperature s (published frameId snapshot temperature as) := by
  have hs : (threads P temperature).Reachable s := System.reachable_of_run h
  have hout := run_putOut h
  have hcut : Cut (publishSample frameId snapshot temperature) _
      (published frameId snapshot temperature as) := message_cut hout.cut
  have hserved : published frameId snapshot temperature as <+:
      (s.shared.admitted.map (·.sample)).flatMap (publishSample frameId snapshot temperature) := by
    obtain ⟨-, -, hpub⟩ := reachable_dispatch hs
    have hhanded : s.shared.handed <+: s.shared.admitted.map (·.sample) :=
      hpub.handed_prefix.trans ((List.take_prefix _ _).map _)
    obtain ⟨rest, hrest⟩ := hhanded
    rw [← hrest, List.flatMap_append]
    exact hcut.beginning.trans (List.prefix_append _ _)
  refine ⟨hserved, hcut.complete, fun hret hok hfailed => ?_, fun hincreasing => ?_⟩
  · obtain ⟨hfin, hall⟩ := stopped_drained hs hret hok
    rw [hfin] at hout
    rw [← hall hfailed]
    rcases hout.2 with hf | hfull
    · exact absurd (hfailed.symm.trans hf) (by decide)
    · rw [published, hfull, List.filterMap_flatMap]
      exact congrArg (s.shared.handed.flatMap ·)
        (funext (render_message frameId snapshot temperature))
  · have hstamps := hserved.filterMap Message.imuStamp?
    rw [stamps_flatMap] at hstamps
    refine List.Pairwise.sublist hstamps.sublist ?_
    rw [List.pairwise_filterMap]
    exact hincreasing.imp fun hlt p hp q hq => (Timestamp.stamp_before_iff
      (Timestamp.toOption_eq_some.mp hp) (Timestamp.toOption_eq_some.mp hq)).mp hlt

end Messages

def twoSamplesRun : List (Σ i, Act Unit i) :=
  ownerDoes [.start ⟨200, 8, 1, false⟩ true true, .reply .done,
    .reply (.created statusOk (some 7)), .reply (.status statusOk), .reply .done,
    .reply (.spawned true), .reply .done, .reply (.status statusOk), .reply .done] ++
  producerDoes [.callback (some ⟨sampleStructSize, 5, ()⟩) 11, .step, .step, .step, .step, .step,
    .callback (some ⟨sampleStructSize, 6, ()⟩) 12, .step, .step, .step, .step, .step] ++
  ownerDoes [.destruct, .reply .done, .reply .done, .reply (.status statusOk), .reply .done,
    .reply .done] ++
  publisherDoes (List.replicate 7 .step ++ [.returns 3, .step] ++ List.replicate 7 .step ++
    [.returns 3, .step] ++ List.replicate 5 .step) ++
  ownerDoes [.reply .done, .reply .done, .reply .done, .reply .done, .reply .done]

def twoSamplesEnd : State Unit :=
  ((threads Unit true).toSystem.run twoSamplesRun (threads Unit true).toSystem.start).get rfl

theorem sample_streams_twoSamples :
    published "robobaton_imu" ⟨0, 0, 100⟩ true twoSamplesRun =
      [.imu ⟨0, 105⟩ "robobaton_imu" (), .temperature ⟨0, 105⟩ "robobaton_imu" (),
        .imu ⟨0, 106⟩ "robobaton_imu" (), .temperature ⟨0, 106⟩ "robobaton_imu" ()] ∧
    SampleStreams "robobaton_imu" ⟨0, 0, 100⟩ true twoSamplesEnd
      (published "robobaton_imu" ⟨0, 0, 100⟩ true twoSamplesRun) :=
  ⟨by decide, sample_streams "robobaton_imu" ⟨0, 0, 100⟩ true (Option.some_get _).symm⟩

end RoboBaton.Imu
