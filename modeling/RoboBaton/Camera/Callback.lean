import RoboBaton.Camera.Core

/-! `FrameSetTrampoline` and `HandleFrameSet`, at their atomic accesses. -/

namespace RoboBaton.Camera
open Metrics

inductive CallbackPc
  | idle
  | loadAccepting (set : Option FrameSet)
  | checkHeader (set : Option FrameSet)
  | item (scan : Scan)
  | retain (scan : Scan) (c : CameraId) (frame : Frame) (info : FrameInfo)
  | push (scan : Scan) (c : CameraId) (job : RetainedFrameJob)
  | rejected (scan : Scan) (c : CameraId) (job : RetainedFrameJob)
  | unwind (job : RetainedFrameJob)
  | leave (failed : Bool)

inductive CallbackAct
  | callback (set : Option FrameSet)
  | step
  | spurious
  | info (status : Status) (info : FrameInfo) (nowNs : UInt64)
  | retained (status : Status)
  | throws

def callbackFailure : Code CallbackPc :=
  ⟨closeAdmissionAndRequestStop ++ recordFailure, .leave true⟩

def throwCallback {D : Type} (d : D) (s : Core D) : Option (Core D × Code CallbackPc) :=
  some (s.incident (.callbackException d), callbackFailure)

section Callback
variable {D : Type} [DecidableEq D]

def handleItem (d : D) (s : Core D) (scan : Scan) :
    CallbackAct → Option (Core D × Code CallbackPc)
  | .step =>
    if scan.index < scan.set.cameraCount.toNat then
      match scan.check s.config with
      | none => throwCallback d s
      -- the next step is the answer of `sc132_frame_get_info`
      | some _ => none
    else some ({ s with completed := s.completed ++ [scan.retained] }, .of (.leave false))
  | .info status info nowNs =>
    if scan.index < scan.set.cameraCount.toNat then
      match scan.check s.config with
      | none => none
      | some (c, frame) =>
        if frameInfoOk c status info then
          some (s, ⟨record s c (recordSource info.sequence info.timestampNs nowNs),
            .retain (scan.see c) c frame info⟩)
        else throwCallback d s
    else none
  | _ => none

def handlePush (d : D) (s : Core D) (scan : Scan) (c : CameraId) (job : RetainedFrameJob)
    (q : FrameQueue) : CallbackAct → Option (Core D × Code CallbackPc)
  | .step =>
    match q.push job with
    | .pushed q' =>
      some ((s.arrive c job .admitted q.queue.length).setQueue c q', .of (.item scan.next))
    | .rejected outcome =>
      some (s.arrive c job outcome q.queue.length, .of (.rejected scan.next c job))
    | .blocked => none
  -- `push_back` may throw `std::bad_alloc`, and only where there is a slot
  | .throws =>
    match q.push job with
    | .pushed _ => some (s.incident (.callbackException d), .of (.unwind job))
    | _ => none
  | _ => none

def CallbackPc.exec (d : D) (s : Core D) :
    CallbackPc → CallbackAct → Option (Core D × Code CallbackPc)
  | .idle, .callback set =>
    some ({ s with inCallback := Function.update s.inCallback d true }, .of (.loadAccepting set))
  | .loadAccepting set, .step =>
    some (s, .of (if s.accepting then .checkHeader set else .leave false))
  | .checkHeader none, .step => throwCallback d s
  | .checkHeader (some set), .step =>
    if headerOk s.config set then
      some ({ s with sets := s.sets ++ [set] }, .of (.item (.start set)))
    else throwCallback d s
  | .item scan, a => handleItem d s scan a
  | .retain scan c frame info, .retained status =>
    if status = statusOk then
      some (s.retain frame, .of (.push (scan.take c frame) c ⟨some frame, info⟩))
    else throwCallback d s
  | .push scan c job, a => (s.queues c).bind fun q => handlePush d s scan c job q a
  -- the argument of `Push` goes out of scope, and its frame with it
  | .rejected scan c job, .step => some (s.release job, ⟨record s c recordDrop, .item scan⟩)
  | .unwind job, .step => some (s.release job, callbackFailure)
  | .leave failed, .step =>
    some ({ (if failed then s.emit .callbackFailed else s) with
      inCallback := Function.update s.inCallback d false }, .of .idle)
  | _, _ => none

/-- `FrameSetTrampoline` on the thread `d`; libsc132 may call it at any time. -/
def frameSetTrampoline (d : D) (a : CallbackAct) (s : Core D) :
    Code CallbackPc → Option (Core D × Code CallbackPc)
  | ⟨[], pc⟩ => pc.exec d s a
  | ⟨op :: ops, pc⟩ =>
    match a with
    | .step => some (Code.advance false s op ops pc)
    | .spurious => some (Code.advance true s op ops pc)
    | _ => none

/-- Everything that a step of a callback thread can do, with its guards. -/
inductive CallbackStep (d : D) (s : Core D) : Code CallbackPc → Core D → Code CallbackPc → Prop
  | common (spurious op ops pc) :
    CallbackStep d s ⟨op :: ops, pc⟩ (op.exec spurious s).1 ⟨(op.exec spurious s).2 ++ ops, pc⟩
  | enter (set) : CallbackStep d s (.of .idle)
      { s with inCallback := Function.update s.inCallback d true } (.of (.loadAccepting set))
  | refused (set) (h : s.accepting = false) :
    CallbackStep d s (.of (.loadAccepting set)) s (.of (.leave false))
  | accepted (set) (h : s.accepting = true) :
    CallbackStep d s (.of (.loadAccepting set)) s (.of (.checkHeader set))
  | header (set) (h : headerOk s.config set = true) : CallbackStep d s
      (.of (.checkHeader (some set))) { s with sets := s.sets ++ [set] } (.of (.item (.start set)))
  | throwHeader (set) : CallbackStep d s (.of (.checkHeader set))
      (s.incident (.callbackException d)) callbackFailure
  | complete (scan : Scan) (h : scan.set.cameraCount.toNat ≤ scan.index) :
    CallbackStep d s (.of (.item scan)) { s with completed := s.completed ++ [scan.retained] }
      (.of (.leave false))
  | throwItem (scan) : CallbackStep d s (.of (.item scan))
      (s.incident (.callbackException d)) callbackFailure
  | info (scan : Scan) (c frame status) (info : FrameInfo) (nowNs)
      (hindex : scan.index < scan.set.cameraCount.toNat)
      (hcheck : scan.check s.config = some (c, frame)) (hinfo : frameInfoOk c status info = true) :
    CallbackStep d s (.of (.item scan)) s
      ⟨record s c (recordSource info.sequence info.timestampNs nowNs),
        .retain (scan.see c) c frame info⟩
  | retain (scan c frame info) : CallbackStep d s (.of (.retain scan c frame info))
      (s.retain frame) (.of (.push (scan.take c frame) c ⟨some frame, info⟩))
  | throwRetain (scan c frame info) : CallbackStep d s (.of (.retain scan c frame info))
      (s.incident (.callbackException d)) callbackFailure
  | pushed (scan c job q q') (hq : s.queues c = some q) (hp : q.push job = .pushed q') :
    CallbackStep d s (.of (.push scan c job))
      ((s.arrive c job .admitted q.queue.length).setQueue c q') (.of (.item scan.next))
  | rejected (scan c job q outcome) (hq : s.queues c = some q)
      (hp : q.push job = .rejected outcome) : CallbackStep d s (.of (.push scan c job))
      (s.arrive c job outcome q.queue.length) (.of (.rejected scan.next c job))
  | throwPush (scan c job q q') (hq : s.queues c = some q) (hp : q.push job = .pushed q') :
    CallbackStep d s (.of (.push scan c job)) (s.incident (.callbackException d))
      (.of (.unwind job))
  | dropped (scan c job) : CallbackStep d s (.of (.rejected scan c job)) (s.release job)
      ⟨record s c recordDrop, .item scan⟩
  | unwind (job) : CallbackStep d s (.of (.unwind job)) (s.release job) callbackFailure
  | leave (failed) : CallbackStep d s (.of (.leave failed))
      { (if failed then s.emit .callbackFailed else s) with
        inCallback := Function.update s.inCallback d false } (.of .idle)

variable {d : D} {a : CallbackAct} {s s' : Core D} {l l' : Code CallbackPc}

theorem handleItem_step {scan : Scan} (h : handleItem d s scan a = some (s', l')) :
    CallbackStep d s (.of (.item scan)) s' l' := by
  unfold handleItem at h
  split at h
  · split at h
    · split at h <;> cases h
      exact .throwItem scan
    · rename_i hindex
      cases h
      exact .complete scan (Nat.le_of_not_lt hindex)
  · split at h
    · rename_i hindex
      split at h
      · cases h
      · rename_i c frame hcheck
        split at h <;> cases h
        · exact .info scan c frame _ _ _ hindex hcheck ‹_›
        · exact .throwItem scan
    · cases h
  · cases h

omit [DecidableEq D] in
theorem handleItem_info {scan scan' : Scan} {c : CameraId} {frame : Frame} {info : FrameInfo}
    {ops : List CommonOp} (h : handleItem d s scan a = some (s', ⟨ops, .retain scan' c frame info⟩)) :
    ∃ status info nowNs, a = .info status info nowNs := by
  cases a with
  | info status info nowNs => exact ⟨status, info, nowNs, rfl⟩
  | step =>
    simp only [handleItem] at h
    split at h
    · split at h <;> cases h
    · cases h
  | callback => cases h
  | spurious => cases h
  | retained => cases h
  | throws => cases h

theorem handlePush_step {scan : Scan} {c : CameraId} {job : RetainedFrameJob} {q : FrameQueue}
    (hq : s.queues c = some q) (h : handlePush d s scan c job q a = some (s', l')) :
    CallbackStep d s (.of (.push scan c job)) s' l' := by
  unfold handlePush at h
  split at h
  · split at h <;> cases h
    · exact .pushed scan c job q _ hq ‹_›
    · exact .rejected scan c job q _ hq ‹_›
  · split at h <;> cases h
    exact .throwPush scan c job q _ hq ‹_›
  · cases h

theorem exec_callbackStep {pc : CallbackPc} (h : pc.exec d s a = some (s', l')) :
    CallbackStep d s (.of pc) s' l' := by
  cases pc with
  | idle =>
    cases a <;> cases h
    exact .enter _
  | loadAccepting set =>
    cases a <;> cases h
    cases ha : s.accepting
    · exact .refused set ha
    · exact .accepted set ha
  | checkHeader set =>
    cases set with
    | none =>
      cases a <;> cases h
      exact .throwHeader none
    | some set =>
      cases a <;> try cases h
      simp only [CallbackPc.exec] at h
      split at h <;> cases h
      · exact .header set ‹_›
      · exact .throwHeader (some set)
  | item scan => exact handleItem_step h
  | retain scan c frame info =>
    cases a <;> try cases h
    simp only [CallbackPc.exec] at h
    split at h <;> cases h
    · exact .retain scan c frame info
    · exact .throwRetain scan c frame info
  | push scan c job =>
    obtain ⟨q, hq, h⟩ := Option.bind_eq_some_iff.mp h
    exact handlePush_step hq h
  | rejected scan c job =>
    cases a <;> cases h
    exact .dropped scan c job
  | unwind job =>
    cases a <;> cases h
    exact .unwind job
  | leave failed =>
    cases a <;> cases h
    exact .leave failed

theorem frameSetTrampoline_step (h : frameSetTrampoline d a s l = some (s', l')) :
    CallbackStep d s l s' l' := by
  obtain ⟨_ | ⟨op, ops⟩, pc⟩ := l
  · exact exec_callbackStep h
  · cases a with
    | step =>
      cases h
      exact .common false op ops pc
    | spurious =>
      cases h
      exact .common true op ops pc
    | callback set => cases h
    | info status info nowNs => cases h
    | retained status => cases h
    | throws => cases h

end Callback

end RoboBaton.Camera
