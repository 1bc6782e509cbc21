import RoboBaton.Library.Outputs
import RoboBaton.Camera.Delivery
import RoboBaton.Camera.Image
import RoboBaton.Timestamp.Stamp

/-! What the subscribers of a camera get: the messages that its worker publishes, in the order in
which it does, whatever the other threads do meanwhile. -/

namespace RoboBaton.Camera
open Transition
variable {D : Type} {s s' : Core D} {cameraInfo : Bool} {c : CameraId}

/-! ### Messages -/

structure CameraInfo where
  stamp : Timestamp.RosStampParts
  frameId : String
  height : UInt32
  width : UInt32
  deriving DecidableEq, Repr

inductive Message
  | image (image : Image)
  | cameraInfo (info : CameraInfo)
  deriving DecidableEq, Repr

def cameraInfoOf (image : Image) : CameraInfo where
  stamp := image.stamp
  frameId := image.frameId
  height := image.height
  width := image.width

/-- The messages that `PublishFrame` publishes when nothing throws: the camera info, if any, goes
out behind its image. -/
def publishFrame (config : ImageConfig) (snapshot : Timestamp.Snapshot) (cameraInfo : Bool)
    (job : RetainedFrameJob) : List Message :=
  match buildImage config snapshot job with
  | .ok image => .image image :: if cameraInfo then [.cameraInfo (cameraInfoOf image)] else []
  | .error _ => []

def Message.image? : Message → Option Image
  | .image built => some built
  | .cameraInfo _ => none

def Message.frameId : Message → String
  | .image built => built.frameId
  | .cameraInfo info => info.frameId

theorem buildImage_header {config : ImageConfig} {snapshot : Timestamp.Snapshot}
    {job : RetainedFrameJob} {image : Image} (h : buildImage config snapshot job = .ok image) :
    image.frameId = cameraFrameId config.frameIdPrefix job.info.cameraId ∧
      headerStampFromFrame config snapshot job.info = .ok image.stamp := by
  simp only [buildImage] at h
  split at h
  · cases h
  · split at h
    · cases h
    · obtain ⟨stamp, hstamp, h⟩ := bind_eq_ok.mp h
      obtain ⟨luma, -, h⟩ := bind_eq_ok.mp h
      obtain ⟨data, -, h⟩ := bind_eq_ok.mp h
      cases h
      exact ⟨rfl, hstamp⟩

/-! ### One worker -/

inductive Output
  | image (job : RetainedFrameJob)
  | info (job : RetainedFrameJob)
  deriving DecidableEq, Repr

def Output.message (config : ImageConfig) (snapshot : Timestamp.Snapshot) :
    Output → Option Message
  | .image job => (buildImage config snapshot job).toOption.map .image
  | .info job => (buildImage config snapshot job).toOption.map fun image =>
    .cameraInfo (cameraInfoOf image)

def render (cameraInfo : Bool) (job : RetainedFrameJob) : List Output :=
  .image job :: if cameraInfo then [.info job] else []

theorem render_message (config : ImageConfig) (snapshot : Timestamp.Snapshot) (cameraInfo : Bool)
    (job : RetainedFrameJob) :
    (render cameraInfo job).filterMap (Output.message config snapshot) =
      publishFrame config snapshot cameraInfo job := by
  unfold render publishFrame
  cases hbuild : buildImage config snapshot job <;> cases cameraInfo <;>
    simp [Output.message, hbuild, Except.toOption]

def puts (cameraInfo : Bool) : Code WorkerPc → WorkerAct → List Output
  | ⟨[], .publishImage job⟩, .returns _ => [.image job]
  | ⟨[], .publishInfo job⟩, .step => if cameraInfo then [.info job] else []
  | _, _ => []

/-- What has been put out when the worker is at `pc`, of the jobs that it has popped. -/
def PutOut (cameraInfo : Bool) (popped : List RetainedFrameJob) (out : List Output) :
    WorkerPc → Prop
  | .pop => out = popped.flatMap (render cameraInfo)
  | .callSink job =>
    ∃ before, popped = before ++ [job] ∧ out = before.flatMap (render cameraInfo)
  | .publishImage job =>
    ∃ before, popped = before ++ [job] ∧ out = before.flatMap (render cameraInfo)
  | .publishInfo job => ∃ before, popped = before ++ [job] ∧
    out = before.flatMap (render cameraInfo) ++ [.image job]
  | .reset _ => out = popped.flatMap (render cameraInfo)
  | .unwind _ => Cut (render cameraInfo) popped out
  | .finish _ => Cut (render cameraInfo) popped out
  | .finished => Cut (render cameraInfo) popped out

theorem PutOut.cut {popped : List RetainedFrameJob} {out : List Output} {pc : WorkerPc}
    (h : PutOut cameraInfo popped out pc) : Cut (render cameraInfo) popped out := by
  cases pc with
  | pop | reset job =>
    subst h
    exact cut_full _ popped
  | callSink job | publishImage job =>
    obtain ⟨before, rfl, rfl⟩ := h
    rw [← List.append_nil (before.flatMap _)]
    exact cut_concat before job List.nil_prefix
  | publishInfo job =>
    obtain ⟨before, rfl, rfl⟩ := h
    exact cut_concat before job (List.prefix_append [_] _)
  | unwind job => exact h
  | finish failed => exact h
  | finished => exact h

/-- The places of a worker where a message can go out. -/
def Code.publishes (l : Code WorkerPc) : Prop :=
  (∃ job, l = .of (.publishImage job)) ∨ ∃ job, l = .of (.publishInfo job)

theorem puts_quiet {l : Code WorkerPc} {a : WorkerAct} (hquiet : ¬ Code.publishes l) :
    puts cameraInfo l a = [] := by
  unfold puts
  split
  · exact absurd (.inl ⟨_, rfl⟩) hquiet
  · exact absurd (.inr ⟨_, rfl⟩) hquiet
  · rfl

theorem WorkerStep.putOut {l l' : Code WorkerPc} {out : List Output}
    (h : WorkerStep cameraInfo c s l s' l') (hquiet : ¬ Code.publishes l)
    (hout : PutOut cameraInfo (s.popped c) out l.pc) :
    PutOut cameraInfo (s'.popped c) out l'.pc := by
  have hcut := hout.cut
  cases h with
  | common spurious op =>
    rw [show (op.exec spurious s).1.popped = s.popped by cases op <;> rfl]
    exact hout
  | popped q job q' _ _ => exact ⟨s.popped c, Function.update_self .., hout⟩
  | finish failed => cases failed <;> exact hcut
  | published job latencyNs => exact absurd (.inl ⟨job, rfl⟩) hquiet
  | publishedInfo job => exact absurd (.inr ⟨job, rfl⟩) hquiet
  | callSink _ | reset _ => exact hout
  | _ => exact hcut

theorem publishImage_putOut {a : WorkerAct} {job : RetainedFrameJob} {l' : Code WorkerPc}
    {out : List Output} (h : (WorkerPc.publishImage job).exec cameraInfo c s a = some (s', l'))
    (hout : PutOut cameraInfo (s.popped c) out (.publishImage job)) :
    PutOut cameraInfo (s'.popped c)
      (out ++ puts cameraInfo (.of (.publishImage job)) a) l'.pc := by
  have hcut := hout.cut
  cases a with
  | returns latencyNs =>
    cases h
    obtain ⟨before, hpopped, rfl⟩ := hout
    exact ⟨before, hpopped, rfl⟩
  | throws =>
    rw [show puts cameraInfo (.of (.publishImage job)) .throws = [] from rfl, List.append_nil]
    cases h
    exact hcut
  | _ => cases h

theorem publishInfo_putOut {a : WorkerAct} {job : RetainedFrameJob} {l' : Code WorkerPc}
    {out : List Output} (h : (WorkerPc.publishInfo job).exec cameraInfo c s a = some (s', l'))
    (hout : PutOut cameraInfo (s.popped c) out (.publishInfo job)) :
    PutOut cameraInfo (s'.popped c)
      (out ++ puts cameraInfo (.of (.publishInfo job)) a) l'.pc := by
  have hcut := hout.cut
  cases a with
  | step =>
    cases h
    obtain ⟨before, hpopped, rfl⟩ := hout
    show _ = (s.popped c).flatMap (render cameraInfo)
    rw [hpopped, List.flatMap_append, List.flatMap_singleton, List.append_assoc]
    rfl
  | throws =>
    rw [show puts cameraInfo (.of (.publishInfo job)) .throws = [] from rfl, List.append_nil]
    cases cameraInfo <;> cases h
    exact hcut
  | _ => cases h

theorem worker_putOut {a : WorkerAct} {l l' : Code WorkerPc} {out : List Output}
    (h : workerLoop cameraInfo c a s l = some (s', l'))
    (hout : PutOut cameraInfo (s.popped c) out l.pc) :
    PutOut cameraInfo (s'.popped c) (out ++ puts cameraInfo l a) l'.pc := by
  obtain ⟨hrunning, hstep⟩ := workerLoop_step h
  by_cases hpublishes : Code.publishes l
  · unfold workerLoop at h
    rw [if_pos hrunning] at h
    obtain ⟨job, rfl⟩ | ⟨job, rfl⟩ := hpublishes
    · exact publishImage_putOut h hout
    · exact publishInfo_putOut h hout
  · rw [puts_quiet hpublishes, List.append_nil]
    exact WorkerStep.putOut hstep hpublishes hout

theorem worker_jobOf {l l' : Code WorkerPc} (hqueues : QueuesOk s)
    (hjobs : ∀ job ∈ s.popped c, JobOf c job) (h : WorkerStep cameraInfo c s l s' l') :
    ∀ job ∈ s'.popped c, JobOf c job := by
  cases h with
  | common spurious op =>
    rw [show (op.exec spurious s).1.popped = s.popped by cases op <;> rfl]
    exact hjobs
  | popped q job q' hq hp =>
    obtain ⟨-, rest, hqueue, rfl⟩ := FrameQueue.pop_eq_popped.mp hp
    have hqueued := (hqueues c q hq).jobs
    rw [hqueue] at hqueued
    show ∀ j ∈ Function.update s.popped c (s.popped c ++ [job]) c, JobOf c j
    rw [Function.update_self]
    intro j hj
    rcases List.mem_append.mp hj with hj | hj
    · exact hjobs j hj
    · exact List.mem_singleton.mp hj ▸ hqueued job List.mem_cons_self
  | finish failed => cases failed <;> exact hjobs
  | _ => exact hjobs

/-! ### All threads -/

section Reached
variable [Fintype D] [DecidableEq D]

theorem others_popped {i : Thread D} (hi : i ≠ .worker c) {a : Act i} {l l' : Local i}
    (h : (threads D cameraInfo).step i a s l = some (s', l')) : s'.popped c = s.popped c := by
  have hcommon : ∀ spurious op, (CommonOp.exec spurious s op).1.popped = s.popped := by
    intro spurious op
    cases op <;> rfl
  cases i with
  | owner =>
    rcases ownerStep_cases h with ⟨rfl, -⟩ | ⟨op, rest, -, he⟩
    · rfl
    · cases exec_step he with
      | common op => exact congrFun (hcommon false op) c
      | _ => rfl
  | dispatcher d =>
    cases frameSetTrampoline_step h with
    | common spurious op => exact congrFun (hcommon spurious op) c
    | leave failed => cases failed <;> rfl
    | _ => rfl
  | worker c' =>
    cases (workerLoop_step h).2 with
    | common spurious op => exact congrFun (hcommon spurious op) c
    | popped q job q' => exact Function.update_of_ne (fun hc : c = c' => hi (by rw [hc])) ..
    | finish failed => cases failed <;> rfl
    | _ => rfl

def workerOutput (cameraInfo : Bool) (c : CameraId) (s : State D) :
    (Σ i : Thread D, Act i) → List Output
  | ⟨.worker c', a⟩ => if c' = c then puts cameraInfo (s.locals (.worker c)) a else []
  | _ => []

def workerOutputs (cameraInfo : Bool) (c : CameraId) (as : List (Σ i : Thread D, Act i)) :
    List Output :=
  (threads D cameraInfo).toSystem.outputs (workerOutput cameraInfo c) as
    (threads D cameraInfo).toSystem.start

theorem run_putOut {as : List (Σ i : Thread D, Act i)} {t : State D}
    (h : (threads D cameraInfo).toSystem.run as (threads D cameraInfo).toSystem.start = some t) :
    PutOut cameraInfo (t.shared.popped c) (workerOutputs cameraInfo c as)
      (t.locals (.worker c) : Code WorkerPc).pc := by
  refine System.outputs_invariant (M := (threads D cameraInfo).toSystem)
    (workerOutput cameraInfo c)
    (P := fun os s => PutOut cameraInfo (s.shared.popped c) os
      (s.locals (.worker c) : Code WorkerPc).pc) ?_ .start rfl h
  rintro os s ⟨i, a⟩ t - hP hn
  obtain ⟨u, l, hst, rfl⟩ := Threads.next_eq_some hn
  by_cases hi : i = .worker c
  · subst hi
    have hlocal : (Function.update s.locals (.worker c) l (.worker c) : Code WorkerPc) = l :=
      Function.update_self ..
    have hput := worker_putOut hst hP
    show PutOut cameraInfo (u.popped c) (os ++ workerOutput cameraInfo c s ⟨.worker c, a⟩)
      (Function.update s.locals (.worker c) l (.worker c) : Code WorkerPc).pc
    rw [hlocal, workerOutput, if_pos rfl]
    exact hput
  · have hlocal : Function.update s.locals i l (.worker c) = s.locals (.worker c) :=
      Function.update_of_ne (Ne.symm hi) ..
    have hnone : workerOutput cameraInfo c s ⟨i, a⟩ = [] := by
      cases i with
      | worker c' => exact if_neg fun hc : c' = c => hi (by rw [hc])
      | _ => rfl
    show PutOut cameraInfo (u.popped c) (os ++ workerOutput cameraInfo c s ⟨i, a⟩)
      (Function.update s.locals i l (.worker c) : Code WorkerPc).pc
    rw [hlocal, hnone, List.append_nil, others_popped hi hst]
    exact hP

theorem popped_jobOf {s : State D} (h : (threads D cameraInfo).Reachable s) :
    ∀ job ∈ s.shared.popped c, JobOf c job := by
  refine System.Reachable.invariant (M := (threads D cameraInfo).toSystem)
    (P := fun s => ∀ job ∈ s.shared.popped c, JobOf c job)
    (fun _ hjob => absurd hjob List.not_mem_nil) ?_ h
  rintro s ⟨i, a⟩ t hs ih hn
  obtain ⟨u, l, hst, rfl⟩ := Threads.next_eq_some hn
  show ∀ job ∈ u.popped c, JobOf c job
  by_cases hi : i = .worker c
  · subst hi
    exact worker_jobOf (reachable_routed hs).1 ih (workerLoop_step hst).2
  · rw [others_popped hi hst]
    exact ih

end Reached

/-! ### The messages of a run -/

def sent (config : ImageConfig) (snapshot : Timestamp.Snapshot) (cameraInfo : Bool) (c : CameraId)
    (as : List (Σ i : Thread Unit, Act i)) : List Message :=
  (workerOutputs cameraInfo c as).filterMap (Output.message config snapshot)

section Messages
variable {config : ImageConfig} {snapshot : Timestamp.Snapshot}

theorem flatMap_message (jobs : List RetainedFrameJob) :
    (jobs.flatMap (render cameraInfo)).filterMap (Output.message config snapshot) =
      jobs.flatMap (publishFrame config snapshot cameraInfo) := by
  rw [List.filterMap_flatMap]
  exact congrArg (jobs.flatMap ·) (funext (render_message config snapshot cameraInfo))

theorem message_cut {jobs : List RetainedFrameJob} {out : List Output}
    (h : Cut (render cameraInfo) jobs out) :
    Cut (publishFrame config snapshot cameraInfo) jobs
      (out.filterMap (Output.message config snapshot)) := by
  rw [← funext (render_message config snapshot cameraInfo)]
  exact h.filterMap

theorem publishFrame_frameId {job : RetainedFrameJob} (hjob : JobOf c job) {m : Message}
    (hm : m ∈ publishFrame config snapshot cameraInfo job) :
    m.frameId = cameraFrameId config.frameIdPrefix (UInt32.ofNat c) := by
  unfold publishFrame at hm
  cases hbuild : buildImage config snapshot job with
  | error e =>
    rw [hbuild] at hm
    cases hm
  | ok image =>
    have hid : job.info.cameraId = UInt32.ofNat c := by
      rw [← hjob, UInt32.ofNat_toNat]
    have hframe := (buildImage_header hbuild).1
    rw [hid] at hframe
    rw [hbuild] at hm
    cases cameraInfo
    · obtain rfl := List.mem_singleton.mp hm
      exact hframe
    · rcases List.mem_cons.mp hm with rfl | hm
      · exact hframe
      · obtain rfl := List.mem_singleton.mp hm
        exact hframe

theorem publishFrame_images (job : RetainedFrameJob) :
    (publishFrame config snapshot cameraInfo job).filterMap Message.image? =
      (buildImage config snapshot job).toOption.toList := by
  unfold publishFrame
  cases hbuild : buildImage config snapshot job <;> cases cameraInfo <;>
    simp [Message.image?, Except.toOption]

theorem images_flatMap (jobs : List RetainedFrameJob) :
    (jobs.flatMap (publishFrame config snapshot cameraInfo)).filterMap Message.image? =
      jobs.filterMap fun job => (buildImage config snapshot job).toOption := by
  rw [List.filterMap_flatMap, List.filterMap_eq_flatMap_toList]
  exact congrArg (jobs.flatMap ·) (funext publishFrame_images)

theorem headerStamp_total {info : FrameInfo} {parts : Timestamp.RosStampParts}
    (h : headerStampFromFrame config snapshot info = .ok parts) :
    parts.nanosec.toNat < 10 ^ 9 ∧ parts.total = info.timestampNs.toNat +
      if sc132TimestampsAreMonotonicRaw config then
        snapshot.realtimeMinusMonotonicRawNs.toInt else 0 := by
  unfold headerStampFromFrame at h
  split at h
  · rename_i hraw
    obtain ⟨-, hnano, htotal⟩ := Timestamp.stamp_eq_ok.mp h
    exact ⟨hnano, by rw [if_pos hraw, htotal]⟩
  · rename_i hraw
    obtain ⟨hnano, htotal⟩ := Timestamp.toRosStampParts_eq_ok.mp h
    exact ⟨hnano, by rw [if_neg hraw, htotal, Int.add_zero]⟩

theorem stamp_before {job job' : RetainedFrameJob} {image image' : Image}
    (hbuild : buildImage config snapshot job = .ok image)
    (hbuild' : buildImage config snapshot job' = .ok image')
    (hlt : job.info.timestampNs < job'.info.timestampNs) : image.stamp.Before image'.stamp := by
  obtain ⟨hnano, htotal⟩ := headerStamp_total (buildImage_header hbuild).2
  obtain ⟨hnano', htotal'⟩ := headerStamp_total (buildImage_header hbuild').2
  rw [Timestamp.before_iff_total hnano hnano', htotal, htotal']
  have hnat := UInt64.lt_iff_toNat_lt.mp hlt
  omega

end Messages

structure Streams (config : ImageConfig) (snapshot : Timestamp.Snapshot) (cameraInfo : Bool)
    (c : CameraId) (s : State Unit) (sent : List Message) : Prop where
  /-- The frames one after the other, each as its image with the camera info behind it. -/
  served : sent <+: (s.shared.popped c).flatMap (publishFrame config snapshot cameraInfo)
  /-- At most the last frame is missing, or a part of its messages. -/
  complete : (s.shared.popped c).dropLast.flatMap (publishFrame config snapshot cameraInfo) <+: sent
  /-- A worker that asks for its next frame has published all of the last one. -/
  idle : (s.locals (.worker c) : Code WorkerPc).pc = .pop →
    sent = (s.shared.popped c).flatMap (publishFrame config snapshot cameraInfo)
  /-- The frames are those of libsc132, in its order; with `block`, the first ones. -/
  frames : Calm s.shared → s.shared.config.cameraEnabled c = true →
    ((s.shared.popped c).map RetainedFrameJob.frame).Sublist (cameraFrames s.shared c) ∧
      (s.shared.config.dropNewest = false →
        (s.shared.popped c).map RetainedFrameJob.frame <+: cameraFrames s.shared c)
  camera : ∀ m ∈ sent, m.frameId = cameraFrameId config.frameIdPrefix (UInt32.ofNat c)
  ordered : (s.shared.popped c).Pairwise (fun a b => a.info.timestampNs < b.info.timestampNs) →
    (sent.filterMap Message.image?).Pairwise fun a b => a.stamp.Before b.stamp

/-- Each camera has its own stream of messages, in the order of its frames, however the callbacks,
the workers and the owner interleave. -/
theorem image_streams (config : ImageConfig) (snapshot : Timestamp.Snapshot) (c : CameraId)
    {as : List (Σ i : Thread Unit, Act i)} {s : State Unit}
    (h : (threads Unit cameraInfo).toSystem.run as (threads Unit cameraInfo).toSystem.start =
      some s) :
    Streams config snapshot cameraInfo c s (sent config snapshot cameraInfo c as) := by
  have hs : (threads Unit cameraInfo).Reachable s := System.reachable_of_run h
  have hout := run_putOut (c := c) h
  obtain ⟨hserved, hcomplete⟩ : Cut (publishFrame config snapshot cameraInfo) _
    (sent config snapshot cameraInfo c as) := message_cut hout.cut
  refine ⟨hserved, hcomplete, fun hpop => ?_, fun hcalm henabled => ⟨?_, fun hblocking => ?_⟩,
    fun m hm => ?_, fun hincreasing => ?_⟩
  · rw [hpop] at hout
    exact (congrArg _ hout).trans (flatMap_message _)
  · have hframes := (reachable_inOrder hs hcalm).arrivals c henabled
    rw [cameraFrames, hframes]
    exact ((reachable_history hs).1.queues hcalm c).sublist.trans (List.sublist_append_left _ _)
  · exact popped_prefix hs hcalm hblocking henabled
  · obtain ⟨job, hjob, hmem⟩ := List.mem_flatMap.mp (hserved.subset hm)
    exact publishFrame_frameId (popped_jobOf hs job hjob) hmem
  · have himages := hserved.filterMap Message.image?
    rw [images_flatMap] at himages
    refine List.Pairwise.sublist himages.sublist ?_
    rw [List.pairwise_filterMap]
    refine hincreasing.imp fun hlt image himage image' himage' => ?_
    exact stamp_before (Timestamp.toOption_eq_some.mp himage)
      (Timestamp.toOption_eq_some.mp himage') hlt

def shownInfo (timestampNs : UInt64) (y : UInt8) : FrameInfo :=
  { sampleInfo with timestampNs, yData := some [y, y, y, y], uvData := some [8, 9] }

def shownConfig : ImageConfig where
  triggerMode := "software_gpio"
  imageEncoding := "nv12"
  frameIdPrefix := "robobaton_cam"
  imagePublishers := fun _ => true

def shownRun : List (Σ i : Thread Unit, Act i) :=
  startRun .default ++ dispatcherDoes () [.callback (some (sampleSet 7)), .step, .step,
    .info statusOk (shownInfo 5 1) 9, .retained statusOk, .step, .step, .step,
    .callback (some (sampleSet 8)), .step, .step, .info statusOk (shownInfo 6 2) 10,
    .retained statusOk, .step, .step, .step] ++
    workerDoes 0 [.step, .step, .returns 3, .step, .step, .step, .step, .returns 3]

def shownEnd : State Unit :=
  ((threads Unit true).toSystem.run shownRun (threads Unit true).toSystem.start).get rfl

def shownImage (nanosec : UInt32) (y : UInt8) : Image :=
  ⟨⟨0, nanosec⟩, "robobaton_cam0_optical_frame", 2, 2, "nv12", false, 2, [y, y, y, y, 8, 9]⟩

theorem image_streams_shown : sent shownConfig ⟨0, 0, 100⟩ true 0 shownRun =
      [.image (shownImage 105 1), .cameraInfo (cameraInfoOf (shownImage 105 1)),
        .image (shownImage 106 2)] ∧
    Streams shownConfig ⟨0, 0, 100⟩ true 0 shownEnd
      (sent shownConfig ⟨0, 0, 100⟩ true 0 shownRun) :=
  ⟨by decide, image_streams shownConfig ⟨0, 0, 100⟩ 0 (Option.some_get _).symm⟩

end RoboBaton.Camera
