import RoboBaton.Camera.Balance
import RoboBaton.Camera.Notices
import RoboBaton.Node.Places

/-! What the process leaves behind: when `main` has returned, no thread of the two cores runs any
more, both drivers are stopped, and what was taken from them has been given back. -/

namespace RoboBaton.Camera
open Discipline Transition
variable {D : Type} {s s' : Core D}

/-! ### A call that ends well or records a failure -/

/-- The call is going to return that the core runs, or to record a failure before that. -/
def promises : List OwnerOp → Bool
  | [] => false
  | .startGuard .. :: _ => false
  | .validateConfig :: _ => true
  | .cleanupGuard _ :: _ => false
  | .common .exchangeFailed :: _ => true
  | .returnStart result :: _ => result == .started
  | .returnCleanup _ :: _ => false
  | _ :: ops => promises ops

theorem promises_prepend {ins ops : List OwnerOp}
    (hins : ∀ op ∈ ins, ∃ o, op = .common o ∧ o ≠ .exchangeFailed) :
    promises (ins ++ ops) = promises ops := by
  induction ins with
  | nil => rfl
  | cons op ins ih =>
    obtain ⟨o, rfl, ho⟩ := hins op List.mem_cons_self
    have hrest := ih fun op' hop' => hins op' (List.mem_cons_of_mem _ hop')
    rw [← hrest]
    cases o <;> first | rfl | exact absurd rfl ho

theorem promises_joinFailure (site : CleanupSite) : promises (joinFailure site) = true := by
  cases site <;> rfl

theorem exec_promises [Fintype D] {op : OwnerOp} {rest : List OwnerOp} {a : OwnerAct}
    {detached : List RetainedFrameJob} {l : OwnerLocal} (hop : op.isReturn = false)
    (hp : promises (op :: rest) = true) (h : op.exec s detached rest a = some (s', l)) :
    s'.failed = true ∨ promises l.ops = true := by
  cases exec_step h with
  | common o =>
    by_cases hfirst : o = .exchangeFailed
    · subst hfirst
      exact .inl rfl
    · right
      have hrest : promises rest = true := by
        cases o <;> first | exact hp | exact absurd rfl hfirst
      refine (promises_prepend fun op hmem => ?_).trans hrest
      obtain ⟨o', ho', rfl⟩ := List.mem_map.mp hmem
      exact ⟨o', rfl, inserted_quiet false s o o' ho'⟩
  | valid => exact .inr (show promises startBody = true by decide)
  | invalid | throwQueue | fpsRefused | rotationRefused | throwSpawn | notStarted => exact .inr rfl
  | throwJoin site => exact .inr (promises_joinFailure site)
  | returnStart | returnCleanup => cases hop
  | rejected | claim | unclaimed | cleaned | cleanup => cases hp
  | _ => exact .inr hp

theorem exec_closed [Fintype D] {op : OwnerOp} {rest : List OwnerOp} {a : OwnerAct}
    {detached : List RetainedFrameJob} {l : OwnerLocal} (hclosed : Closed s)
    (h : op.exec s detached rest a = some (s', l)) :
    Closed s' ∨ (∃ config sink notifier, op = .startGuard config sink notifier) ∧
      promises l.ops = true := by
  cases exec_step h with
  | common o =>
    obtain ⟨hclaimed, hcomplete, -⟩ := sameStages_common false s o
    left
    rw [Closed, hclaimed, hcomplete]
    exact hclosed
  | claim config sink notifier => exact .inr ⟨⟨config, sink, notifier, rfl⟩, rfl⟩
  | finishCleanup => exact .inl (.inr rfl)
  | _ => exact .inl hclosed

section Reached
variable [Fintype D] [DecidableEq D] {cameraInfo : Bool} {s : State D}

theorem closed_owners (h : (threads D cameraInfo).Reachable s) (hclosed : Closed s.shared)
    (hidle : (s.locals .owner : OwnerLocal).ops = []) (f : Frame) : owners f s = 0 := by
  rcases hclosed with hunclaimed | hcomplete
  · obtain ⟨hL, hok⟩ := reachable_core h
    obtain ⟨-, -, -, hqueues, -⟩ := hL.unclaimed hunclaimed
    have hqueued : queued f s.shared = 0 := Finset.sum_eq_zero fun c _ => by rw [hqueues c]; rfl
    have hheld : ∀ i, heldJobs i (s.locals i) = [] := by
      intro i
      cases i with
      | owner =>
        have hbatches : batchRules.Safe (fun _ => (s.locals .owner : OwnerLocal).detached = [])
            (s.locals .owner : OwnerLocal).ops :=
          (hok .owner : OwnerOk s.shared (s.locals .owner)).batches
        rw [hidle] at hbatches
        exact hbatches () (by simp)
      | dispatcher d => exact (closed_outside h (.inl hunclaimed) d).jobs
      | worker c =>
        have hworker : WorkerOk s.shared c (s.locals (.worker c)) := hok (.worker c)
        show (s.locals (.worker c) : Code WorkerPc).pc.jobs = []
        rw [hworker.unborn ((hL.unclaimed hunclaimed).2.2.2.2.1 c)]
        rfl
    rw [owners, hqueued, Nat.zero_add]
    exact Finset.sum_eq_zero fun i _ => by rw [hheld i, countOwners_nil]
  · exact owners_of_complete h hcomplete f

end Reached
end RoboBaton.Camera

namespace RoboBaton.Imu
open Trace Transition
variable {P : Type} [Inhabited P] {t : Bool} {s : State P}

theorem closed_destroyed (h : (threads P t).Reachable s) (hclosed : Closed s.shared)
    (hidle : (s.locals .owner : OwnerLocal).ops = []) {k : Handle} (hk : Created s.shared.events k) :
    (s.shared.events.filter (· == .destroy (some k))).length = 1 := by
  obtain ⟨hL, -, howned, -⟩ := reachable_owner h
  rcases hclosed with hunclaimed | ⟨result, hr⟩
  · obtain ⟨config, status, hmem⟩ := hk
    exact absurd hmem ((hL.unclaimed hunclaimed).2.2.2 config status (some k))
  · have hd : .destroy (some k) ∈ s.shared.events := by
      have hlive := howned k hk
      rw [hidle, (hL.stopReturn result hr).2.1] at hlive
      simpa using hlive
    refine hL.ordered.filter_length_eq_one (fun pre e he hok x hx => ?_) hd (by simp)
    obtain rfl : e = .destroy (some k) := by simpa using he
    obtain ⟨⟨_, hk', -, hnot, -⟩, -⟩ := hok
    obtain rfl := Option.some.inj hk'
    simp only [beq_eq_false_iff_ne, ne_eq]
    rintro rfl
    exact hnot hx

theorem closed_stopped (h : (threads P t).Reachable s) (hclosed : Closed s.shared)
    (hs : Started s.shared.events) : (s.shared.events.filter Event.isStop).length = 1 := by
  obtain ⟨hL, -⟩ := reachable_owner h
  rcases hclosed with hunclaimed | ⟨result, hr⟩
  · have hnever := (hL.unclaimed hunclaimed).2.2.1
    rw [hL.started.mpr hs] at hnever
    cases hnever
  · have hret := (hL.stopReturn result hr).2.2.2.1 (hL.started.mpr hs)
    obtain ⟨handle, hstop⟩ := hL.stopReturned hret
    refine hL.ordered.filter_length_eq_one (fun pre e he hok x hx => ?_) hstop rfl
    cases e <;> try cases he
    cases x <;> first | rfl | exact (hok.2.2 ⟨_, hx⟩).elim

end RoboBaton.Imu

namespace RoboBaton.Node
open Transition Discipline
variable {D P : Type} {s t : Process D P}

/-! ### What the main thread knows of the ends -/

inductive Duty
  | cameraMade
  | cameraClosed
  | imuMade
  | imuClosed
  | joinFailed
  deriving DecidableEq

def Duty.Known (s : Process D P) : Duty → Prop
  | .cameraMade => s.cameraPublisher ≠ none
  | .cameraClosed => s.cameraCall = [] ∧ Camera.Closed s.camera.shared
  | .imuMade => s.imuPublisher ≠ none
  | .imuClosed => s.imuCall = [] ∧ Imu.Closed s.imu.shared
  | .joinFailed => .joinFailed ∈ s.camera.shared.incidents

@[simp] def dutyRules : Rules MainOp Duty where
  ends := []
  contract
    | .makeImu => { gives := [.imuMade] }
    | .startImu => { needs := [.imuMade], loses := [.imuClosed] }
    | .startImuReturn => { loses := [.imuClosed] }
    | .makeCamera => { needs := [.cameraClosed], gives := [.cameraMade] }
    | .startCamera => { needs := [.cameraMade], loses := [.cameraClosed] }
    | .startCameraReturn => { loses := [.cameraClosed] }
    | .stopCamera => { gives := [.cameraClosed] }
    | .cleanupCamera => { loses := [.cameraClosed] }
    | .cleanupCameraReturn => { gives := [.cameraClosed], loses := [.cameraClosed] }
    | .loadCameraFailed => { needs := [.cameraClosed] }
    | .exitProcess => { needs := [.joinFailed] }
    | .resetCamera => { needs := [.cameraClosed], loses := [.cameraMade] }
    | .stopImu => { loses := [.imuClosed] }
    | .stopImuCore => { needs := [.imuMade], loses := [.imuClosed] }
    | .stopImuCoreReturn => { loses := [.imuClosed] }
    | .destroyImuCore => { loses := [.imuClosed] }
    | .destroyImuCoreReturn => { gives := [.imuClosed], loses := [.imuClosed] }
    | .resetImu => { needs := [.imuClosed], loses := [.imuMade] }
    | .returnExitCode => { needs := [.cameraClosed, .imuClosed] }
    | _ => {}

section Programs
variable {known : Duty → Prop}

theorem duties_afterLoop : dutyRules.Safe known afterLoop := by
  simp [afterLoop, stopPublishers, destroyCamera, destroyImu, leave]

theorem duties_loop {rest : List MainOp} (hrest : dutyRules.Safe known rest) :
    dutyRules.Safe known (loop ++ rest) :=
  hrest.prepend (by simp [loop])

theorem duties_main (parameters : Parameters) (hclosed : known .cameraClosed) :
    dutyRules.Safe known (main parameters) := by
  cases henable : parameters.enableCamera <;> cases henable' : parameters.enableImu <;>
    simp [main, construct, loop, afterLoop, stopPublishers, destroyCamera, destroyImu, leave, henable,
      henable', hclosed]

theorem duties_unwind {op : MainOp} {unwind : List MainOp} (hop : op.unwind = some unwind) :
    dutyRules.Safe known (unwind ++ .catchError :: leave) := by
  obtain rfl | rfl : unwind = destroyMembers ∨ unwind = stopPublishers := by
    cases op <;> cases hop <;> simp
  · simp [destroyMembers, destroyCamera, destroyImu, leave]
  · simp [stopPublishers, destroyCamera, destroyImu, leave]

theorem duties_cleanup {rest : List MainOp}
    (hrest : dutyRules.Safe (dutyRules.after known .stopCamera) rest) :
    dutyRules.Safe known ([.cleanupCamera, .cleanupCameraReturn, .loadCameraFailed] ++ rest) := by
  refine ⟨by simp, by simp, by simp, hrest.mono fun f hf => ?_⟩
  cases f <;> simp at hf ⊢ <;> exact hf

theorem duties_stop {rest : List MainOp} (hmade : known .imuMade)
    (hrest : dutyRules.Safe (dutyRules.after known .stopImu) rest) :
    dutyRules.Safe known ([.stopImuCore, .stopImuCoreReturn, .loadImuFailed] ++ rest) := by
  refine ⟨by simp [hmade], by simp, by simp, hrest.mono fun f hf => ?_⟩
  cases f <;> simp at hf ⊢ <;> exact hf

end Programs

/-! ### What the publishers owe to the cores -/

/-- Whatever is not closed is going to be: its publisher knows that it runs, or that it failed. -/
structure Watched (s : Process D P) : Prop where
  camera : Camera.Closed s.camera.shared ∨ s.cameraPublisher = some true ∨
    s.cameraPublisher ≠ none ∧
      (s.camera.shared.failed = true ∨ Camera.promises s.cameraCall = true)
  starting : (∃ config sink notifier, .startGuard config sink notifier ∈ s.cameraCall) →
    s.cameraPublisher ≠ none
  imu : s.imuPublisher = none → s.imuCall = [] ∧ Imu.Closed s.imu.shared

section CameraSteps
variable [Fintype D] [DecidableEq D] {parameters : Parameters}
  {e : Σ i : Camera.Thread D, Camera.Act i}

namespace Watched

theorem of_camera (h : Watched s) (he : CameraEffect parameters s t e)
    (hclosed : Camera.Closed s.camera.shared → Camera.Closed t.camera.shared ∨
      s.cameraPublisher ≠ none ∧ Camera.promises t.cameraCall = true)
    (hpromise : Camera.promises s.cameraCall = true → t.camera.shared.failed = true ∨
      Camera.promises t.cameraCall = true)
    (hstart : (∃ config sink notifier, .startGuard config sink notifier ∈ t.cameraCall) →
      s.cameraPublisher ≠ none) : Watched t where
  camera := by
    rw [he.cameraPublisher]
    rcases h.camera with hc | hc | ⟨hmade, hfailed | hc⟩
    · exact (hclosed hc).imp_right fun hopen => .inr ⟨hopen.1, .inr hopen.2⟩
    · exact .inr (.inl hc)
    · exact .inr (.inr ⟨hmade, .inl (he.onward.1.failed hfailed)⟩)
    · exact .inr (.inr ⟨hmade, hpromise hc⟩)
  starting := by
    rw [he.cameraPublisher]
    exact hstart
  imu := by
    rw [Process.imuCall, he.imu, he.imuPublisher]
    exact h.imu

theorem camera_inside (h : Watched s)
    (he : CameraEffect parameters s t e) (hinside : s.cameraInside e = true) : Watched t := by
  by_cases howner : e.1 = .owner
  · obtain ⟨i, a⟩ := e
    obtain rfl : i = .owner := howner
    -- a step of the call that the main thread waits for
    obtain ⟨l, hst, hl⟩ := he.ownerStep
    obtain ⟨-, hops, -⟩ | ⟨op, ops, hops, hexec⟩ := Camera.ownerStep_cases hst
    · exact absurd rfl (outside_camera hinside hops)
    · have hcall : s.cameraCall = op :: ops := hops
      have hop : op.isReturn = false := by
        cases op <;> first | rfl | simp [Process.cameraInside, hcall] at hinside
      have hstart := h.starting
      rw [hcall] at hstart
      refine h.of_camera he (fun hc => ?_) (fun hp => ?_) ?_
      · rw [hl]
        refine (Camera.exec_closed hc hexec).imp_right ?_
        rintro ⟨⟨config, sink, notifier, rfl⟩, hp⟩
        exact ⟨hstart ⟨config, sink, notifier, List.mem_cons_self⟩, hp⟩
      · rw [hcall] at hp
        rw [hl]
        exact Camera.exec_promises hop hp hexec
      · rw [hl]
        rintro ⟨config, sink, notifier, hmem⟩
        exact hstart ⟨config, sink, notifier, Camera.owner_entry hexec hmem⟩
  · obtain ⟨i, a⟩ := e
    -- a thread of the core: the call stays where it is
    obtain ⟨c, l, hst, ht⟩ := Threads.next_eq_some he.next
    have hcall : t.cameraCall = s.cameraCall := by
      rw [Process.cameraCall, Process.cameraCall, ht]
      exact congrArg Camera.OwnerLocal.ops (Function.update_of_ne (Ne.symm howner) _ _)
    have hsame := Camera.others_sameStages howner hst
    rw [show c = t.camera.shared by rw [ht]] at hsame
    refine h.of_camera he (fun hc => .inl ?_) (fun hp => .inr ?_) ?_
    · rw [Camera.Closed, hsame.startClaimed, hsame.cleanupComplete]
      exact hc
    · rwa [hcall]
    · rw [hcall]
      exact h.starting

end Watched

theorem CameraEffect.entered {a : Camera.Act (.owner : Camera.Thread D)}
    (he : CameraEffect parameters s t ⟨.owner, a⟩) (hidle : s.cameraCall = []) :
    t.camera.shared = s.camera.shared := by
  obtain ⟨l, hst, -⟩ := he.ownerStep
  obtain ⟨hshared, -⟩ | ⟨op, ops, hops, -⟩ := Camera.ownerStep_cases hst
  · exact hshared
  · exact absurd (hidle.symm.trans hops) (List.cons_ne_nil _ _).symm

theorem CameraEffect.returned {op : Camera.OwnerOp} (hcall : s.cameraCall = [op])
    (hop : op.isReturn = true) (he : CameraEffect parameters s t ⟨.owner, .step⟩) :
    Camera.Closed s.camera.shared → Camera.Closed t.camera.shared := by
  obtain ⟨l, hst, -⟩ := he.ownerStep
  obtain ⟨-, hops, -⟩ | ⟨op', ops, hops, hexec⟩ := Camera.ownerStep_cases hst
  · exact absurd (hcall.symm.trans hops) (List.cons_ne_nil _ _)
  · obtain ⟨rfl, rfl⟩ := List.cons.inj (hcall.symm.trans hops)
    intro hc
    refine (Camera.exec_closed hc hexec).resolve_right ?_
    rintro ⟨⟨config, sink, notifier, rfl⟩, -⟩
    cases hop

end CameraSteps

section ImuSteps
variable [Inhabited P] {parameters : Parameters} {e : Σ i, Imu.Act P i}

theorem Watched.of_imu (h : Watched s) (he : ImuEffect parameters s t e)
    (hclosed : s.imuPublisher = none → s.imuCall = [] → Imu.Closed s.imu.shared →
      t.imuCall = [] ∧ Imu.Closed t.imu.shared) : Watched t where
  camera := by
    rw [Process.cameraCall, he.camera, he.cameraPublisher]
    exact h.camera
  starting := by
    rw [Process.cameraCall, he.camera, he.cameraPublisher]
    exact h.starting
  imu := by
    rw [he.imuPublisher]
    exact fun hnone => hclosed hnone (h.imu hnone).1 (h.imu hnone).2

theorem ImuEffect.closed (he : ImuEffect parameters s t e) (hinside : s.imuInside e = true)
    (hidle : s.imuCall = []) (hclosed : Imu.Closed s.imu.shared) :
    t.imuCall = [] ∧ Imu.Closed t.imu.shared := by
  have howner := outside_imu hinside hidle
  refine ⟨(he.call howner).trans hidle, ?_⟩
  obtain ⟨i, a⟩ := e
  obtain ⟨c, l, hst, ht⟩ := Threads.next_eq_some he.next
  have hframe : Imu.OwnerFrame s.imu.shared c := by
    cases i with
    | owner => exact absurd rfl howner
    | producer => exact (Imu.sampleTrampoline_frame hst).1
    | publisher => exact (Imu.publisher_step_running hst).1
  rw [ht, Imu.Closed, hframe.startClaimed, hframe.events]
  exact hclosed

end ImuSteps

/-! ### Steps of the process -/

section Process
variable [Fintype D] [DecidableEq D] [Inhabited P] {parameters : Parameters}

def Over (s : Process D P) (code : Nat) : Prop :=
  code = 1 ∧ .joinFailed ∈ s.camera.shared.incidents ∨
    Duty.Known s .cameraClosed ∧ Duty.Known s .imuClosed

structure Dutiful (s : Process D P) (ops : List MainOp) : Prop where
  watched : Watched s
  duties : dutyRules.Safe (Duty.Known s) ops
  ended : ∀ code, s.ending = some (.exited code) → Over s code

omit [Inhabited P] in
theorem Duty.of_camera {e : Σ i : Camera.Thread D, Camera.Act i}
    (he : CameraEffect parameters s t e) {f : Duty} (hf : f ≠ .cameraClosed) (h : f.Known s) :
    f.Known t := by
  cases f with
  | cameraMade => exact fun hnone => h (he.cameraPublisher.symm.trans hnone)
  | imuMade => exact fun hnone => h (he.imuPublisher.symm.trans hnone)
  | joinFailed => exact he.onward.1.incidents.subset h
  | cameraClosed => exact absurd rfl hf
  | imuClosed =>
    rw [Duty.Known, Process.imuCall, he.imu]
    exact h

omit [Fintype D] [DecidableEq D] in
theorem Duty.of_imu {e : Σ i, Imu.Act P i} (he : ImuEffect parameters s t e) {f : Duty}
    (hf : f ≠ .imuClosed) (h : f.Known s) : f.Known t := by
  cases f with
  | cameraMade => exact fun hnone => h (he.cameraPublisher.symm.trans hnone)
  | imuMade => exact fun hnone => h (he.imuPublisher.symm.trans hnone)
  | joinFailed =>
    rw [Duty.Known, he.camera]
    exact h
  | cameraClosed =>
    rw [Duty.Known, Process.cameraCall, he.camera]
    exact h
  | imuClosed => exact absurd rfl hf

theorem other_duties {i : Thread} {a : Act D P i} {l l' : Local i} (hi : i ≠ .main)
    (hok : ProcessOk parameters s) (hw : Watched s)
    (h : (process D P parameters).step i a s l = some (t, l')) :
    Watched t ∧ (∀ f, Duty.Known s f → Duty.Known t f) ∧ s.ending = none ∧ t.ending = none := by
  cases i with
  | main => exact absurd rfl hi
  | camera =>
    obtain ⟨⟨hend, hinside⟩, hst⟩ := Option.ite_none_right_eq_some.mp h
    obtain ⟨t, ht, hx⟩ := Option.map_eq_some_iff.mp hst
    cases hx
    have he := cameraStep_effect ht
    refine ⟨hw.camera_inside he hinside, fun f hf => ?_, hend, he.ending.trans hend⟩
    by_cases hclosed : f = .cameraClosed
    · subst hclosed
      obtain ⟨hcall, -, hclaimed, hcomplete⟩ := he.idle hok hinside hf.1 hf.2
      refine ⟨hcall, ?_⟩
      rw [Camera.Closed, hclaimed, hcomplete]
      exact hf.2
    · exact Duty.of_camera he hclosed hf
  | imu =>
    obtain ⟨⟨hend, hinside⟩, hst⟩ := Option.ite_none_right_eq_some.mp h
    obtain ⟨t, ht, hx⟩ := Option.map_eq_some_iff.mp hst
    cases hx
    have he := imuStep_effect ht
    refine ⟨hw.of_imu he fun _ => he.closed hinside, fun f hf => ?_, hend, he.ending.trans hend⟩
    by_cases hclosed : f = .imuClosed
    · subst hclosed
      exact he.closed hinside hf.1 hf.2
    · exact Duty.of_imu he hclosed hf
  | signals =>
    obtain ⟨hend, hst⟩ := Option.ite_none_right_eq_some.mp h
    cases hst
    exact ⟨⟨hw.camera, hw.starting, hw.imu⟩, fun f hf => by cases f <;> exact hf, hend, hend⟩

omit [Fintype D] [DecidableEq D] [Inhabited P] in
theorem throw_duties (op : MainOp) {unwind ops : List MainOp} {standard : Bool} (hw : Watched s)
    (hend : s.ending = none) (hop : op.unwind = some unwind)
    (h : s.throw unwind standard = (t, ops)) : Dutiful t ops := by
  cases standard with
  | true =>
    obtain ⟨rfl, rfl⟩ := Prod.mk.inj h
    refine ⟨⟨hw.camera, hw.starting, hw.imu⟩, duties_unwind hop, fun code hexited => ?_⟩
    exact absurd (hend.symm.trans hexited) (by simp)
  | false =>
    obtain ⟨rfl, rfl⟩ := Prod.mk.inj h
    exact ⟨⟨hw.camera, hw.starting, hw.imu⟩, by simp, fun code hexited => by simp at hexited⟩

omit [Fintype D] [DecidableEq D] [Inhabited P] in
theorem Dutiful.tail {op : MainOp} {rest : List MainOp} (h : Dutiful s (op :: rest))
    (hw : Watched t) (hend : t.ending = none)
    (hkeep : ∀ f, Duty.Known s f → f ∉ (dutyRules.contract op).loses → Duty.Known t f)
    (hgive : ∀ f ∈ (dutyRules.contract op).gives, Duty.Known t f) : Dutiful t rest :=
  ⟨hw, h.duties.tail hkeep hgive, fun _ hexited => absurd (hend.symm.trans hexited) (by simp)⟩

/-! #### Steps that go into a core -/

omit [Inhabited P] in
theorem Dutiful.crossed_camera {op : MainOp} {rest : List MainOp}
    {e : Σ i : Camera.Thread D, Camera.Act i} (hd : Dutiful s (op :: rest)) (hend : s.ending = none)
    (he : CameraEffect parameters s t e) (hw : Watched t)
    (hloses : (dutyRules.contract op).loses = [.cameraClosed])
    (hgive : ∀ f ∈ (dutyRules.contract op).gives, Duty.Known t f) : Dutiful t rest := by
  refine hd.tail hw (he.ending.trans hend) (fun f hf hlost => Duty.of_camera he ?_ hf) hgive
  rintro rfl
  rw [hloses] at hlost
  exact hlost List.mem_cons_self

omit [Fintype D] [DecidableEq D] in
theorem Dutiful.crossed_imu {op : MainOp} {rest : List MainOp} {e : Σ i, Imu.Act P i}
    (hd : Dutiful s (op :: rest)) (hend : s.ending = none) (he : ImuEffect parameters s t e)
    (hw : Watched t) (hloses : (dutyRules.contract op).loses = [.imuClosed])
    (hgive : ∀ f ∈ (dutyRules.contract op).gives, Duty.Known t f) : Dutiful t rest := by
  refine hd.tail hw (he.ending.trans hend) (fun f hf hlost => Duty.of_imu he ?_ hf) hgive
  rintro rfl
  rw [hloses] at hlost
  exact hlost List.mem_cons_self

omit [Inhabited P] in
theorem enter_camera {a : Camera.Act (.owner : Camera.Thread D)} {ops : List Camera.OwnerOp}
    (hidle : s.cameraCall = []) (hw : Watched s) (he : CameraEffect parameters s t ⟨.owner, a⟩)
    (hcall : t.cameraCall = ops)
    (hstart : (∃ config sink notifier, .startGuard config sink notifier ∈ ops) →
      s.cameraPublisher ≠ none) : Watched t := by
  have hshared := he.entered hidle
  refine hw.of_camera he (fun hc => .inl (hshared.symm ▸ hc)) (fun hp => ?_) ?_
  · rw [hidle] at hp
    cases hp
  · rw [hcall]
    exact hstart

omit [Inhabited P] in
theorem leave_camera {op : Camera.OwnerOp} (hcall : s.cameraCall = [op]) (hop : op.isReturn = true)
    (hpromise : Camera.promises [op] = false) (hw : Watched s)
    (he : CameraEffect parameters s t ⟨.owner, .step⟩) : Watched t := by
  refine hw.of_camera he (fun hc => .inl (he.returned hcall hop hc)) (fun hp => ?_) ?_
  · rw [hcall, hpromise] at hp
    cases hp
  · rw [cameraReturn_crossed hcall hop he]
    rintro ⟨config, sink, notifier, hmem⟩
    cases hmem

omit [Fintype D] [DecidableEq D] [Inhabited P] in
theorem imu_made (hw : Watched s) {op : Imu.OwnerOp} (hcall : s.imuCall = [op]) :
    s.imuPublisher ≠ none := fun hnone =>
  absurd (hcall.symm.trans (hw.imu hnone).1) (List.cons_ne_nil _ _)

theorem cleanup_closed {result : Bool} (hok : ProcessOk parameters s)
    (hcall : s.cameraCall = [.returnCleanup result]) (hresult : result = true) :
    Camera.Closed s.camera.shared := by
  obtain ⟨-, hthreads⟩ := Camera.reachable_core hok.camera
  have hsafe := (hthreads .owner : Camera.OwnerOk s.camera.shared (s.camera.locals .owner)).safe
  rw [show (s.camera.locals .owner : Camera.OwnerLocal).ops = _ from hcall] at hsafe
  have hverdict : Camera.Holds s.camera.shared (.verdict result) := hsafe.1 _ (by simp)
  cases hclaimed : s.camera.shared.startClaimed with
  | false => exact .inl hclaimed
  | true => exact .inr (hverdict hresult hclaimed)

omit [Fintype D] [DecidableEq D] [Inhabited P] in
theorem Watched.made_imu (hw : Watched s) (started failed : Bool) :
    Watched { s with imuPublisher := some started, processFailed := failed } :=
  ⟨hw.camera, hw.starting, fun hnone => absurd hnone (Option.some_ne_none _)⟩

omit [Fintype D] [DecidableEq D] [Inhabited P] in
theorem Watched.made_camera (hw : Watched s) (started failed : Bool)
    (hstarted : Camera.Closed s.camera.shared ∨ started = true) :
    Watched { s with cameraPublisher := some started, processFailed := failed } :=
  ⟨hstarted.imp_right fun h => .inl (congrArg some h), fun _ => Option.some_ne_none _, hw.imu⟩

omit [Fintype D] [DecidableEq D] [Inhabited P] in
theorem Duty.made_imu {f : Duty} (h : f.Known s) (started failed : Bool) :
    f.Known { s with imuPublisher := some started, processFailed := failed } := by
  cases f with
  | imuMade => exact Option.some_ne_none _
  | _ => exact h

omit [Fintype D] [DecidableEq D] [Inhabited P] in
theorem Duty.made_camera {f : Duty} (h : f.Known s) (started failed : Bool) :
    f.Known { s with cameraPublisher := some started, processFailed := failed } := by
  cases f with
  | cameraMade => exact Option.some_ne_none _
  | _ => exact h

omit [Fintype D] [DecidableEq D] [Inhabited P] in
theorem duties_resetCamera {rest : List MainOp} (hend : s.ending = none)
    (hd : Dutiful s (.resetCamera :: rest)) : Dutiful { s with cameraPublisher := none } rest := by
  have hclosed : Duty.Known s .cameraClosed := hd.duties.1 _ (by simp)
  refine hd.tail ⟨.inl hclosed.2, ?_, hd.watched.imu⟩ hend (fun f hf hlost => ?_) (by simp)
  · rintro ⟨config, sink, notifier, hmem⟩
    have hcall : ({ s with cameraPublisher := none } : Process D P).cameraCall = [] := hclosed.1
    rw [hcall] at hmem
    cases hmem
  · cases f with
    | cameraMade => simp at hlost
    | _ => exact hf

omit [Fintype D] [DecidableEq D] [Inhabited P] in
theorem duties_resetImu {rest : List MainOp} (hend : s.ending = none)
    (hd : Dutiful s (.resetImu :: rest)) : Dutiful { s with imuPublisher := none } rest := by
  have hclosed : Duty.Known s .imuClosed := hd.duties.1 _ (by simp)
  refine hd.tail ⟨hd.watched.camera, hd.watched.starting, fun _ => hclosed⟩ hend
    (fun f hf hlost => ?_) (by simp)
  cases f with
  | imuMade => simp at hlost
  | _ => exact hf

theorem duties_stopCamera {rest ops : List MainOp} (hr : Ready s (.stopCamera :: rest))
    (hend : s.ending = none) (hd : Dutiful s (.stopCamera :: rest))
    (h : MainOp.stopCamera.exec parameters s rest .step = some (t, ops)) : Dutiful t ops := by
  have hidle : s.cameraCall = [] := hr.places.1 .cameraIdle (by simp)
  obtain ⟨rfl, ⟨rfl, hskip⟩ | ⟨rfl, -⟩⟩ := stopCamera_cases h
  · -- a core that is not cleaned up here is closed already
    have hclosed : Camera.Closed t.camera.shared := by
      refine hd.watched.camera.resolve_right ?_
      rw [hidle]
      rintro (hstarted | ⟨hmade, hfailed | hpromise⟩)
      · cases (hskip true hstarted).1
      · obtain ⟨started, hsome⟩ := Option.ne_none_iff_exists'.mp hmade
        exact absurd ((hskip started hsome).2.symm.trans hfailed) Bool.false_ne_true
      · cases hpromise
    exact hd.tail hd.watched hend (fun f hf _ => hf)
      (by simpa [Duty.Known] using ⟨hidle, hclosed⟩)
  · exact ⟨hd.watched, duties_cleanup hd.duties.2, hd.ended⟩

theorem duties_stopImu {rest ops : List MainOp} (hend : s.ending = none)
    (hd : Dutiful s (.stopImu :: rest))
    (h : MainOp.stopImu.exec parameters s rest .step = some (t, ops)) : Dutiful t ops := by
  obtain ⟨rfl, ⟨rfl, -⟩ | ⟨rfl, hmade⟩⟩ := stopImu_cases h
  · exact hd.tail hd.watched hend (fun f hf _ => hf) (by simp)
  · exact ⟨hd.watched, duties_stop hmade hd.duties.2, hd.ended⟩

omit [Inhabited P] in
theorem Dutiful.entered_camera {op : MainOp} {rest : List MainOp}
    {a : Camera.Act (.owner : Camera.Thread D)} {call : List Camera.OwnerOp}
    (hd : Dutiful s (op :: rest)) (hend : s.ending = none) (hidle : s.cameraCall = [])
    (hu : s.cameraStep parameters ⟨.owner, a⟩ = some t)
    (henter : ∀ c : Camera.Core D, ∀ detached,
      Camera.ownerStep a c ⟨[], detached⟩ = some (c, ⟨call, detached⟩))
    (hstart : (∃ config sink notifier, .startGuard config sink notifier ∈ call) →
      s.cameraPublisher ≠ none)
    (hloses : (dutyRules.contract op).loses = [.cameraClosed])
    (hgives : (dutyRules.contract op).gives = []) : Dutiful t rest := by
  have he := cameraStep_effect hu
  have hcall := camera_entered hidle he henter
  exact hd.crossed_camera hend he (enter_camera hidle hd.watched he hcall hstart) hloses
    fun f hf => absurd (hgives ▸ hf) List.not_mem_nil

omit [Fintype D] [DecidableEq D] in
theorem Dutiful.entered_imu {op : MainOp} {rest : List MainOp} {a : Imu.Act P .owner}
    (hd : Dutiful s (op :: rest)) (hend : s.ending = none) (hmade : s.imuPublisher ≠ none)
    (hu : s.imuStep parameters ⟨.owner, a⟩ = some t)
    (hloses : (dutyRules.contract op).loses = [.imuClosed])
    (hgives : (dutyRules.contract op).gives = []) : Dutiful t rest := by
  have he := imuStep_effect hu
  exact hd.crossed_imu hend he (hd.watched.of_imu he fun hnone => absurd hnone hmade) hloses
    fun f hf => absurd (hgives ▸ hf) List.not_mem_nil

theorem duties_startImuReturn {rest ops : List MainOp} (hend : s.ending = none)
    (hd : Dutiful s (.startImuReturn :: rest))
    (h : MainOp.startImuReturn.exec parameters s rest .step = some (t, ops)) : Dutiful t ops := by
  obtain ⟨result, u, hcall, hu, hends⟩ := startImuReturn_cases h
  have he := imuStep_effect hu
  have hw : Watched u :=
    hd.watched.of_imu he fun hnone => absurd hnone (imu_made hd.watched hcall)
  obtain ⟨-, rfl, rfl⟩ | ⟨-, hthrow⟩ := hends
  · refine hd.tail (hw.made_imu true u.processFailed) (he.ending.trans hend)
      (fun f hf hlost => ?_) (by simp)
    have hkept : Duty.Known u f := Duty.of_imu he (by rintro rfl; simp at hlost) hf
    exact Duty.made_imu hkept true u.processFailed
  · exact throw_duties .startImu hw (he.ending.trans hend) rfl hthrow

theorem duties_startCameraReturn {rest ops : List MainOp} (hend : s.ending = none)
    (hd : Dutiful s (.startCameraReturn :: rest))
    (h : MainOp.startCameraReturn.exec parameters s rest .step = some (t, ops)) :
    Dutiful t ops := by
  obtain ⟨result, u, hcall, hu, hends⟩ := startCameraReturn_cases h
  have he := cameraStep_effect hu
  obtain ⟨-, rfl, rfl⟩ | ⟨hstarted, hthrow⟩ := hends
  · have himu : u.imuPublisher = none → u.imuCall = [] ∧ Imu.Closed u.imu.shared := by
      rw [Process.imuCall, he.imu, he.imuPublisher]
      exact hd.watched.imu
    refine hd.tail ⟨.inr (.inl rfl), fun _ => by simp, himu⟩ (he.ending.trans hend)
      (fun f hf hlost => ?_) (by simp)
    have hkept : Duty.Known u f := Duty.of_camera he (by rintro rfl; simp at hlost) hf
    exact Duty.made_camera hkept true u.processFailed
  · have hpromise : Camera.promises [.returnStart result] = false := by
      cases result <;> first | rfl | exact absurd rfl hstarted
    exact throw_duties .startCamera (leave_camera hcall rfl hpromise hd.watched he)
      (he.ending.trans hend) rfl hthrow

theorem duties_cleanupCameraReturn {rest ops : List MainOp} (hok : ProcessOk parameters s)
    (hend : s.ending = none) (hd : Dutiful s (.cleanupCameraReturn :: rest))
    (h : MainOp.cleanupCameraReturn.exec parameters s rest .step = some (t, ops)) :
    Dutiful t ops := by
  obtain ⟨result, u, hcall, hu, hends⟩ := cleanupCameraReturn_cases h
  have he := cameraStep_effect hu
  have hw : Watched u := leave_camera hcall rfl rfl hd.watched he
  obtain ⟨hresult, rfl, rfl⟩ | ⟨hresult, rfl, rfl⟩ := hends
  · have hreturned := cameraReturn_crossed hcall rfl he
    have hclosed := he.returned hcall rfl (cleanup_closed hok hcall hresult)
    refine hd.crossed_camera hend he hw rfl ?_
    simpa [Duty.Known] using ⟨hreturned, hclosed⟩
  · have hjoin : .joinFailed ∈ u.camera.shared.incidents :=
      (he.returnCleanup hok hcall).2.2 hresult
    refine ⟨⟨hw.camera, hw.starting, hw.imu⟩, by simpa [Duty.Known] using hjoin,
      fun code hexited => ?_⟩
    exact absurd ((he.ending.trans hend).symm.trans hexited) (by simp)

theorem duties_stopImuCoreReturn {rest ops : List MainOp} (hend : s.ending = none)
    (hd : Dutiful s (.stopImuCoreReturn :: rest))
    (h : MainOp.stopImuCoreReturn.exec parameters s rest .step = some (t, ops)) :
    Dutiful t ops := by
  obtain ⟨result, u, hcall, hu, rfl, rfl⟩ := stopImuCoreReturn_cases h
  have he := imuStep_effect hu
  have hw : Watched u :=
    hd.watched.of_imu he fun hnone => absurd hnone (imu_made hd.watched hcall)
  refine hd.tail ⟨hw.camera, hw.starting, hw.imu⟩ (he.ending.trans hend) (fun f hf hlost => ?_)
    (by simp)
  have hkept : Duty.Known u f := Duty.of_imu he (fun h => hlost (by simp [h])) hf
  cases f <;> exact hkept

theorem duties_destroyImuCoreReturn {rest ops : List MainOp} (hok : ProcessOk parameters s)
    (hend : s.ending = none) (hd : Dutiful s (.destroyImuCoreReturn :: rest))
    (h : MainOp.destroyImuCoreReturn.exec parameters s rest .step = some (t, ops)) :
    Dutiful t ops := by
  obtain ⟨rfl, ⟨hnone, rfl⟩ | ⟨hmade, result, hcall, hu⟩⟩ := destroyImuCoreReturn_cases h
  · refine hd.tail hd.watched hend (fun f hf _ => hf) ?_
    simpa [Duty.Known] using hd.watched.imu hnone
  · have he := imuStep_effect hu
    obtain ⟨hreturned, hstopped, -⟩ := he.returnStop hok hcall
    refine hd.crossed_imu hend he
      (hd.watched.of_imu he fun hnone => absurd hnone hmade) rfl ?_
    simpa [Duty.Known] using ⟨hreturned, .inr hstopped⟩

theorem exec_duties {op : MainOp} {rest ops : List MainOp} (hok : ProcessOk parameters s)
    (hr : Ready s (op :: rest)) (hend : s.ending = none) (hd : Dutiful s (op :: rest))
    (h : op.exec parameters s rest .step = some (t, ops)) : Dutiful t ops := by
  have hw := hd.watched
  cases op with
  | loadParameters | startImuTimer | configureCamera | startCameraTimer | addNode | removeNode =>
    cases h
    exact hd.tail hw hend (fun f hf _ => hf) (by simp)
  | catchError | shutdown =>
    cases h
    exact hd.tail ⟨hw.camera, hw.starting, hw.imu⟩ hend (fun f hf _ => by cases f <;> exact hf)
      (by simp)
  | makeImu | loadImuFailed =>
    cases h
    exact hd.tail (hw.made_imu _ _) hend (fun _ hf _ => Duty.made_imu hf _ _) (by simp [Duty.Known])
  | makeCamera | loadCameraFailed =>
    have hclosed : Duty.Known s .cameraClosed := hd.duties.1 _ (by simp)
    cases h
    exact hd.tail (hw.made_camera _ _ (.inl hclosed.2)) hend
      (fun _ hf _ => Duty.made_camera hf _ _) (by simp [Duty.Known])
  | resetCamera => cases h; exact duties_resetCamera hend hd
  | resetImu => cases h; exact duties_resetImu hend hd
  | loadStopRequested | loadOk | loadProcessFailed =>
    cases h
    have hrest := hd.tail hw hend (fun f hf _ => hf) (by simp)
    split
    all_goals first | exact hrest | exact ⟨hw, duties_afterLoop, hd.ended⟩
  | spinOnce =>
    cases h
    have hrest := hd.tail hw hend (fun f hf _ => hf) (by simp)
    exact ⟨hw, duties_loop hrest.duties, hd.ended⟩
  | exitProcess =>
    have hjoin : Duty.Known s .joinFailed := hd.duties.1 _ (by simp)
    cases h
    refine ⟨⟨hw.camera, hw.starting, hw.imu⟩, by simp, fun _ hexited => ?_⟩
    cases hexited
    exact .inl ⟨rfl, hjoin⟩
  | returnExitCode =>
    have hcamera : Duty.Known s .cameraClosed := hd.duties.1 _ (by simp)
    have himu : Duty.Known s .imuClosed := hd.duties.1 _ (by simp)
    cases h
    exact ⟨⟨hw.camera, hw.starting, hw.imu⟩, by simp, fun _ _ => .inr ⟨hcamera, himu⟩⟩
  | stopCamera => exact duties_stopCamera hr hend hd h
  | stopImu => exact duties_stopImu hend hd h
  | startImu | stopImuCore =>
    -- the entry of a call of the IMU core, which exists by then
    obtain ⟨hu, rfl⟩ := step_cases h
    exact hd.entered_imu hend (hd.duties.1 .imuMade (by simp)) hu rfl rfl
  | destroyImuCore =>
    obtain ⟨rfl, ⟨-, rfl⟩ | ⟨hmade, hu⟩⟩ := destroyImuCore_cases h
    · exact hd.tail hw hend (fun f hf _ => hf) (by simp)
    · exact hd.entered_imu hend hmade hu rfl rfl
  | startCamera =>
    obtain ⟨hu, rfl⟩ := step_cases h
    exact hd.entered_camera hend (hr.places.1 .cameraIdle (by simp [unoccupied])) hu
      (fun _ _ => rfl) (fun _ => hd.duties.1 .cameraMade (by simp)) rfl rfl
  | cleanupCamera =>
    obtain ⟨hu, rfl⟩ := step_cases h
    refine hd.entered_camera hend (hr.places.1 .cameraIdle (by simp)) hu (fun _ _ => rfl) ?_ rfl rfl
    rintro ⟨config, sink, notifier, hmem⟩
    simp at hmem
  | startImuReturn => exact duties_startImuReturn hend hd h
  | startCameraReturn => exact duties_startCameraReturn hend hd h
  | cleanupCameraReturn => exact duties_cleanupCameraReturn hok hend hd h
  | stopImuCoreReturn => exact duties_stopImuCoreReturn hend hd h
  | destroyImuCoreReturn => exact duties_destroyImuCoreReturn hok hend hd h

theorem mainStep_duties {a : MainAct} {ops ops' : List MainOp} (hok : ProcessOk parameters s)
    (hr : Ready s ops) (hd : Dutiful s ops) (h : mainStep parameters a s ops = some (t, ops')) :
    Dutiful t ops' := by
  cases ops with
  | nil => cases h
  | cons op rest =>
    obtain ⟨hend, hexec⟩ := Option.ite_none_right_eq_some.mp h
    cases a with
    | step => exact exec_duties hok hr hend hd hexec
    | throws standard =>
      obtain ⟨unwind, hunwind, hthrow⟩ := throws_cases hexec
      exact throw_duties op hd.watched hend hunwind hthrow

theorem reachable_dutiful {s : State D P} (h : (process D P parameters).Reachable s) :
    Dutiful s.shared (s.locals .main) := by
  refine Threads.Reachable.focus (T := process D P parameters) (i := .main) (J := Dutiful)
    ⟨⟨.inl (.inl rfl), ?_, fun _ => ⟨rfl, .inl rfl⟩⟩, duties_main parameters ⟨rfl, .inl rfl⟩, ?_⟩
    ?_ ?_ h
  · rintro ⟨config, sink, notifier, hmem⟩
    cases hmem
  · intro code hexited
    cases hexited
  · intro s a s' ops hs hd hst
    exact mainStep_duties (reachable_process hs) (reachable_ready hs) hd hst
  · intro s j a s' l' hj hs hd hst
    obtain ⟨hw, hkeep, -, hend⟩ := other_duties hj (reachable_process hs) hd.watched hst
    exact ⟨hw, hd.duties.mono hkeep, fun _ hexited => absurd (hend.symm.trans hexited) (by simp)⟩

/-! ### The end -/

/-- Nothing that the process has started or taken is left. -/
structure AtRest (s : Process D P) : Prop where
  workers : ∀ c, Camera.Joined s.camera.shared c
  callbacks : ∀ d, Camera.Outside (s.camera.locals (.dispatcher d))
  sensors : (∃ producer cameraMask, .startFrameSet producer cameraMask ∈ s.camera.shared.events) →
    .stopReturned ∈ s.camera.shared.events
  frames : ∀ f, s.camera.shared.retained.count f = s.camera.shared.released.count f
  publisher : s.imu.shared.publisher = .none ∨ s.imu.shared.publisher = .joined
  handles : ∀ k, Imu.Created s.imu.shared.events k →
    (s.imu.shared.events.filter (· == .destroy (some k))).length = 1
  driver : Imu.Started s.imu.shared.events →
    (s.imu.shared.events.filter Imu.Event.isStop).length = 1
  samples : s.imu.shared.stopFailed = false → Imu.Resting s.imu

theorem closed_atRest (hok : ProcessOk parameters s) (hcamera : Duty.Known s .cameraClosed)
    (himu : Duty.Known s .imuClosed) : AtRest s := by
  obtain ⟨hcall, hclosed⟩ := hcamera
  obtain ⟨hcall', hclosed'⟩ := himu
  obtain ⟨hL, -⟩ := Camera.reachable_core hok.camera
  constructor
  case workers => exact Camera.closed_joined hok.camera hclosed
  case callbacks => exact Camera.closed_outside hok.camera hclosed
  case sensors =>
    rintro ⟨producer, cameraMask, hstart⟩
    rcases hclosed with hunclaimed | hcomplete
    · exact absurd hstart ((hL.unclaimed hunclaimed).2.2.2.2.2.1 producer cameraMask)
    · exact (hL.complete hcomplete).1
  case frames =>
    intro f
    have hnone := Camera.closed_owners hok.camera hclosed hcall f
    rw [Camera.references_balance hok.camera f, hnone, Nat.add_zero]
  case publisher =>
    rcases hclosed' with hunclaimed | ⟨result, hr⟩
    · exact .inl ((Imu.reachable_owner hok.imu).1.unclaimed hunclaimed).2.1
    · exact ((Imu.reachable_owner hok.imu).1.stopReturn result hr).2.2.1
  case handles => exact fun k hk => Imu.closed_destroyed hok.imu hclosed' hcall' hk
  case driver => exact Imu.closed_stopped hok.imu hclosed'
  case samples => exact Imu.closed_resting hok.imu hclosed'

/-- When the process has exited, whatever was thrown on the way, then either a worker of the
camera core could not be joined, or nothing is left behind. -/
theorem leaves_nothing {s : State D P} (h : (process D P parameters).Reachable s) {code : Nat}
    (hending : s.shared.ending = some (.exited code)) :
    code = 1 ∧ .joinFailed ∈ s.shared.camera.shared.incidents ∨ AtRest s.shared :=
  ((reachable_dutiful h).ended code hending).imp_right fun hclosed =>
    closed_atRest (reachable_process h) hclosed.1 hclosed.2

end Process

/-! ### A run -/

def bothSensors : Parameters := { imuOnly with enableCamera := true }

def refusedRun : List (Σ i, Act Unit Unit i) :=
  mainDoes 3 ++
  imuDoes (Imu.ownerDoes [.reply .done, .reply (.created Imu.statusOk (some 7)),
    .reply (.status Imu.statusOk), .reply .done, .reply (.spawned true), .reply .done,
    .reply (.status Imu.statusOk)]) ++
  mainDoes 5 ++
  (Camera.ownerDoes (List.replicate 7 .step ++ .status 1 :: List.replicate 28 .step)).map
    (fun a => ⟨.camera, a⟩) ++
  mainDoes 3 ++
  imuDoes (Imu.ownerDoes [.reply .done, .reply .done, .reply (.status Imu.statusOk), .reply .done,
    .reply .done]) ++
  imuDoes (Imu.publisherDoes (List.replicate 5 .step)) ++
  imuDoes (Imu.ownerDoes (List.replicate 4 (.reply .done))) ++
  mainDoes 3 ++ imuDoes (Imu.ownerDoes [.reply .done]) ++ mainDoes 4 ++
  (Camera.ownerDoes [.step]).map (fun a => ⟨.camera, a⟩) ++ mainDoes 6

def refusedEnd : State Unit Unit :=
  ((process Unit Unit bothSensors).toSystem.run refusedRun
    (process Unit Unit bothSensors).toSystem.start).get rfl

theorem leaves_nothing_refused : .setFps 30 1 ∈ refusedEnd.shared.camera.shared.events ∧
    .create ⟨200, 8, 1, false⟩ Imu.statusOk (some 7) ∈ refusedEnd.shared.imu.shared.events ∧
    AtRest refusedEnd.shared := by
  have hending : refusedEnd.shared.ending = some (.exited 1) := rfl
  have hended := leaves_nothing (s := refusedEnd) (System.reachable_get _) hending
  exact ⟨by decide, by decide, hended.resolve_left (by decide)⟩

end RoboBaton.Node
