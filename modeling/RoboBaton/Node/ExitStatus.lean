import RoboBaton.Node.Failures

/-! The exit status of the process: it is 0 exactly when nothing has failed, in whatever thread
and however late. -/

namespace RoboBaton.Node
open Transition Discipline
variable {D P : Type} {s t : Process D P}

section Process
variable [Fintype D] [DecidableEq D] [Inhabited P] {parameters : Parameters}

/-! ### The invariant of the process -/

structure ProcessOk (parameters : Parameters) (s : Process D P) : Prop where
  camera : (Camera.threads D parameters.publishCameraInfo).Reachable s.camera
  imu : (Imu.threads P parameters.publishTemperature).Reachable s.imu
  guilty : s.processFailed = true → Guilty s
  ended : ∀ ending, s.ending = some ending → (ending = .exited 0 ↔ ¬ Mishap s)

theorem ProcessOk.cameraStep {e : Σ i : Camera.Thread D, Camera.Act i} (h : ProcessOk parameters s)
    (hend : s.ending = none) (he : CameraEffect parameters s t e) : ProcessOk parameters t := by
  have hreached : (Camera.threads D parameters.publishCameraInfo).Reachable t.camera :=
    h.camera.next he.next
  refine ⟨hreached, he.imu ▸ h.imu, fun hfailed => ?_, fun ending hending => ?_⟩
  · rcases he.notified hfailed with hfailed | hnotified
    · refine (h.guilty hfailed).imp he.onward.1.failed (Or.imp (he.onward.1.incidents.subset ·) ?_)
      rw [he.imu]
      exact id
    · exact .inl (Camera.reachable_notice hreached hnotified)
  · simp [he.ending, hend] at hending

theorem ProcessOk.imuStep {e : Σ i, Imu.Act P i} (h : ProcessOk parameters s)
    (hend : s.ending = none) (he : ImuEffect parameters s t e) : ProcessOk parameters t := by
  refine ⟨he.camera ▸ h.camera, h.imu.next he.next, fun hfailed => ?_, fun ending hending => ?_⟩
  · rcases he.notified hfailed with hfailed | hnotified
    · have hguilty := h.guilty hfailed
      rw [Guilty, ← he.camera] at hguilty
      exact hguilty.imp_right (Or.imp_right he.onward.1.charged)
    · exact .inr (.inr (.inr (.inr hnotified)))
  · simp [he.ending, hend] at hending

/-! ### Steps of the other threads -/

namespace CameraEffect
variable {e : Σ i : Camera.Thread D, Camera.Act i}

theorem idle (hok : ProcessOk parameters s) (he : CameraEffect parameters s t e)
    (hinside : s.cameraInside e = true) (hcall : s.cameraCall = [])
    (hclosed : Camera.Closed s.camera.shared) :
    t.cameraCall = [] ∧ t.camera.shared.failed = s.camera.shared.failed ∧
      t.camera.shared.startClaimed = s.camera.shared.startClaimed ∧
      t.camera.shared.cleanupComplete = s.camera.shared.cleanupComplete := by
  have howner := outside_camera hinside hcall
  obtain ⟨i, a⟩ := e
  obtain ⟨c, l, hst, ht⟩ := Threads.next_eq_some he.next
  have hsame := Camera.closed_step hok.camera hclosed howner hst
  rw [← hcall, Process.cameraCall, Process.cameraCall, ht]
  exact ⟨congrArg Camera.OwnerLocal.ops (Function.update_of_ne (Ne.symm howner) _ _), hsame⟩

theorem inside (hok : ProcessOk parameters s) (he : CameraEffect parameters s t e)
    (hinside : s.cameraInside e = true) {f : Fact} (h : Holds s f) : Holds t f := by
  have hdone : CameraDone s → CameraDone t := by
    rintro (⟨hnone, hcall, hstart, hfailed⟩ | ⟨haccepted, hstill⟩)
    · obtain ⟨hcall', hfailed', hstart', -⟩ := idle hok he hinside hcall (.inl hstart)
      exact .inl ⟨he.cameraPublisher.trans hnone, hcall', hstart'.trans hstart, hfailed'.trans hfailed⟩
    · refine .inr ⟨he.onward.2.subset haccepted, hstill.imp he.processFailed ?_⟩
      rintro ⟨hcall, hcomplete, hfailed⟩
      obtain ⟨hcall', hfailed', -, hcomplete'⟩ := idle hok he hinside hcall (.inr hcomplete)
      exact ⟨hcall', hcomplete'.trans hcomplete, hfailed'.trans hfailed⟩
  cases f with
  | cameraDone => exact h.imp he.escaped.trans hdone
  | cameraReady =>
    refine h.imp he.escaped.trans (Or.imp hdone (And.imp (fun haccepted => ?_) he.cameraPublisher.trans))
    exact he.onward.2.subset haccepted
  | cameraCleaned =>
    refine h.imp he.escaped.trans ?_
    rintro ⟨hcall, hcomplete⟩
    obtain ⟨hcall', -, -, hcomplete'⟩ := idle hok he hinside hcall (.inr hcomplete)
    exact ⟨hcall', hcomplete'.trans hcomplete⟩
  | _ => exact he.holds (by decide) h

end CameraEffect

namespace ImuEffect
variable {e : Σ i, Imu.Act P i}

theorem owner (hok : ProcessOk parameters s) (he : ImuEffect parameters s t e)
    (hclosed : Imu.Closed s.imu.shared) (hstop : s.imu.shared.stopFailed = false) :
    e.1 = .owner := by
  by_contra howner
  obtain ⟨i, a⟩ := e
  obtain ⟨c, l, hst, -⟩ := Threads.next_eq_some he.next
  rw [Imu.closed_step hok.imu hclosed hstop howner a] at hst
  cases hst

theorem still (hok : ProcessOk parameters s) (he : ImuEffect parameters s t e)
    (hinside : s.imuInside e = true) (hstill : ImuStill s) : ImuStill t := by
  obtain ⟨⟨result, hr⟩, hfailed, hstop, hcall⟩ := hstill
  have howner := owner hok he (.inr ⟨result, hr⟩) hstop
  rcases hcall with hcall | hcall | ⟨result', hcall⟩
  · exact absurd howner (outside_imu hinside hcall)
  · obtain ⟨i, a⟩ := e
    obtain rfl : i = .owner := howner
    obtain ⟨l, hst, hl⟩ := he.ownerStep
    obtain ⟨-, hops, -⟩ | ⟨op, ops, r, hops, hexec, -⟩ := Imu.ownerStep_cases hst
    · exact absurd (hcall.symm.trans hops) (by simp)
    · obtain ⟨rfl, rfl⟩ := List.cons.inj (hcall.symm.trans hops)
      cases r <;> try cases hexec
      rw [(Imu.driver_protocol hok.imu).laterStop result hr] at hexec
      obtain ⟨hshared, hreturn⟩ := Prod.mk.inj (Option.some.inj hexec)
      rw [ImuStill, ImuStopped, ← hshared, hl, ← hreturn]
      exact ⟨⟨result, hr⟩, hfailed, hstop, .inr (.inr ⟨_, rfl⟩)⟩
  · simp [Process.imuInside, howner, hcall] at hinside

theorem inside (hok : ProcessOk parameters s) (he : ImuEffect parameters s t e)
    (hinside : s.imuInside e = true) {f : Fact} (h : Holds s f) : Holds t f := by
  have hdone : ImuDone s → ImuDone t := by
    rintro (⟨hnone, hcall, hevents, hstart, hfailed, hstop⟩ | ⟨haccepted, hstill⟩)
    · exact absurd (owner hok he (.inl hstart) hstop) (outside_imu hinside hcall)
    · exact .inr ⟨he.onward.2.subset haccepted, hstill.imp he.processFailed (still hok he hinside)⟩
  cases f with
  | imuDone => exact h.imp he.escaped.trans hdone
  | imuReady =>
    refine h.imp he.escaped.trans (Or.imp hdone (And.imp (fun haccepted => ?_) he.imuPublisher.trans))
    exact he.onward.2.subset haccepted
  | imuStopped =>
    refine h.imp he.escaped.trans ?_
    rintro ⟨hcall, ⟨result, hr⟩, hstopped⟩
    have howner := outside_imu hinside hcall
    refine ⟨(he.call howner).trans hcall, ⟨result, he.onward.2.subset hr⟩, ?_⟩
    rcases hstopped with hfailed | hstop
    · exact .inl (he.processFailed hfailed)
    · exact absurd (owner hok he (.inr ⟨result, hr⟩) hstop) howner
  | _ => exact he.holds (by decide) h

end ImuEffect

/-! ### Instructions of the main thread -/

/-- An instruction keeps the invariant and leaves code behind that finds what it relies on. -/
def Keeps (D P : Type) [Fintype D] [DecidableEq D] [Inhabited P] (op : MainOp) : Prop :=
  ∀ (parameters : Parameters) (s s' : Process D P) (rest ops : List MainOp),
    ProcessOk parameters s → s.ending = none → rules.Safe (Holds s) (op :: rest) →
    op.exec parameters s rest .step = some (s', ops) →
    ProcessOk parameters s' ∧ rules.Safe (Holds s') ops

theorem Kept.ok (hk : Kept s t) (h : ProcessOk parameters s) (hend : s.ending = none)
    (hfailed : t.processFailed = true → s.processFailed = true ∨ Guilty s) :
    ProcessOk parameters t := by
  refine ⟨hk.camera ▸ h.camera, hk.imu ▸ h.imu, fun hf => ?_, fun ending hending => ?_⟩
  · rw [Guilty, hk.camera, hk.imu]
    exact (hfailed hf).elim h.guilty id
  · simp [hk.ending, hend] at hending

theorem throw_ok {unwind ops : List MainOp} {standard : Bool}
    (hunwind : unwind = destroyMembers ∨ unwind = stopPublishers) (hok : ProcessOk parameters s)
    (hend : s.ending = none) (h : s.throw unwind standard = (t, ops)) :
    ProcessOk parameters t ∧ rules.Safe (Holds t) ops := by
  cases standard with
  | true =>
    obtain ⟨rfl, rfl⟩ := Prod.mk.inj h
    refine ⟨⟨hok.camera, hok.imu, hok.guilty, fun ending hending => ?_⟩, safe_unwind hunwind ?_⟩
    · exact absurd (hend.symm.trans hending) (by simp)
    · intro f hf
      cases f with
      | caught => exact absurd rfl hf
      | _ => exact .inl rfl
  | false =>
    obtain ⟨rfl, rfl⟩ := Prod.mk.inj h
    refine ⟨⟨hok.camera, hok.imu, hok.guilty, fun ending hending => ?_⟩, by simp⟩
    obtain rfl := Option.some.inj hending
    exact iff_of_false (by simp) (not_not_intro (.escaped rfl))

theorem exec_throws {op : MainOp} {rest ops : List MainOp} {standard : Bool}
    (hok : ProcessOk parameters s) (hend : s.ending = none)
    (h : op.exec parameters s rest (.throws standard) = some (t, ops)) :
    ProcessOk parameters t ∧ rules.Safe (Holds t) ops := by
  obtain ⟨unwind, hunwind, hthrow⟩ := throws_cases h
  refine throw_ok ?_ hok hend hthrow
  cases op <;> cases hunwind <;> simp

theorem keeps_nothing {op : MainOp} {rest : List MainOp} (hok : ProcessOk parameters s)
    (hS : rules.Safe (Holds s) (op :: rest)) (hgives : (rules.contract op).gives = []) :
    ProcessOk parameters s ∧ rules.Safe (Holds s) rest :=
  ⟨hok, hS.tail (fun _ hf _ => hf) fun f hf => by
    rw [hgives] at hf
    cases hf⟩

theorem keeps_makeImu : Keeps D P .makeImu := by
  intro parameters s s' rest ops hok hend hS h
  cases h
  have hk : Kept s { s with imuPublisher := some false } := ⟨rfl, rfl, rfl, rfl, rfl, id⟩
  exact ⟨hk.ok hok hend .inl,
    hS.tail (fun f hf hl => hk.holds (fun _ => rfl) (fun himu => absurd himu hl) hf) (by simp)⟩

theorem keeps_makeCamera : Keeps D P .makeCamera := by
  intro parameters s s' rest ops hok hend hS h
  cases h
  have hk : Kept s { s with cameraPublisher := some false } := ⟨rfl, rfl, rfl, rfl, rfl, id⟩
  exact ⟨hk.ok hok hend .inl,
    hS.tail (fun f hf hl => hk.holds (fun hcamera => absurd hcamera hl) (fun _ => rfl) hf) (by simp)⟩

theorem keeps_cameraCall {op : MainOp} {a : Camera.Act (.owner : Camera.Thread D)}
    {rest ops : List MainOp} (hok : ProcessOk parameters s) (hend : s.ending = none)
    (hS : rules.Safe (Holds s) (op :: rest)) (hloses : (rules.contract op).loses = cameraFacts)
    (hgives : (rules.contract op).gives = [])
    (h : (s.cameraStep parameters ⟨.owner, a⟩).map (fun t => (t, rest)) = some (t, ops)) :
    ProcessOk parameters t ∧ rules.Safe (Holds t) ops := by
  obtain ⟨ht, rfl⟩ := step_cases h
  have he := cameraStep_effect ht
  refine ⟨hok.cameraStep hend he, hS.tail (fun f hf hl => he.holds (hloses ▸ hl) hf) fun f hf => ?_⟩
  rw [hgives] at hf
  cases hf

theorem keeps_imuCall {op : MainOp} {a : Imu.Act P .owner} {rest ops : List MainOp}
    (hok : ProcessOk parameters s) (hend : s.ending = none)
    (hS : rules.Safe (Holds s) (op :: rest)) (hloses : (rules.contract op).loses = imuFacts)
    (hgives : (rules.contract op).gives = [])
    (h : (s.imuStep parameters ⟨.owner, a⟩).map (fun t => (t, rest)) = some (t, ops)) :
    ProcessOk parameters t ∧ rules.Safe (Holds t) ops := by
  obtain ⟨ht, rfl⟩ := step_cases h
  have he := imuStep_effect ht
  refine ⟨hok.imuStep hend he, hS.tail (fun f hf hl => he.holds (hloses ▸ hl) hf) fun f hf => ?_⟩
  rw [hgives] at hf
  cases hf

theorem keeps_startImu : Keeps D P .startImu := by
  intro parameters s s' rest ops hok hend hS h
  exact keeps_imuCall hok hend hS rfl rfl h

theorem keeps_stopImuCore : Keeps D P .stopImuCore := by
  intro parameters s s' rest ops hok hend hS h
  exact keeps_imuCall hok hend hS rfl rfl h

theorem keeps_startCamera : Keeps D P .startCamera := by
  intro parameters s s' rest ops hok hend hS h
  exact keeps_cameraCall hok hend hS rfl rfl h

theorem keeps_cleanupCamera : Keeps D P .cleanupCamera := by
  intro parameters s s' rest ops hok hend hS h
  exact keeps_cameraCall hok hend hS rfl rfl h

theorem keeps_startImuReturn : Keeps D P .startImuReturn := by
  intro parameters s s' rest ops hok hend hS h
  obtain ⟨result, t, hcall, ht, hends⟩ := startImuReturn_cases h
  have he := imuStep_effect ht
  have hok' := hok.imuStep hend he
  have hend' : t.ending = none := he.ending.trans hend
  obtain ⟨rfl, rfl, rfl⟩ | ⟨-, hthrow⟩ := hends
  · have hk : Kept t { t with imuPublisher := some true } := ⟨rfl, rfl, rfl, rfl, rfl, id⟩
    refine ⟨hk.ok hok' hend' .inl, hS.tail (fun f hf hl => ?_) ?_⟩
    · exact hk.holds (fun _ => rfl) (fun himu => absurd himu hl) (he.holds hl hf)
    · simpa using .inr (.inr ⟨he.returnStart hcall, rfl⟩)
  · exact throw_ok (.inl rfl) hok' hend' hthrow

theorem keeps_startCameraReturn : Keeps D P .startCameraReturn := by
  intro parameters s s' rest ops hok hend hS h
  obtain ⟨result, t, hcall, ht, hends⟩ := startCameraReturn_cases h
  have he := cameraStep_effect ht
  have hok' := hok.cameraStep hend he
  have hend' : t.ending = none := he.ending.trans hend
  obtain ⟨rfl, rfl, rfl⟩ | ⟨-, hthrow⟩ := hends
  · have hk : Kept t { t with cameraPublisher := some true } := ⟨rfl, rfl, rfl, rfl, rfl, id⟩
    refine ⟨hk.ok hok' hend' .inl, hS.tail (fun f hf hl => ?_) ?_⟩
    · exact hk.holds (fun hcamera => absurd hcamera hl) (fun _ => rfl) (he.holds hl hf)
    · simpa using .inr (.inr ⟨he.returnStart hcall, rfl⟩)
  · exact throw_ok (.inl rfl) hok' hend' hthrow

/-! #### The loop -/

theorem keeps_branch {op : MainOp} {rest ops : List MainOp} (hok : ProcessOk parameters s)
    (hS : rules.Safe (Holds s) (op :: rest))
    (hneeds : (rules.contract op).needs = [.cameraReady, .imuReady, .caught])
    (hgives : (rules.contract op).gives = []) (hops : ops = afterLoop ∨ ops = rest) :
    ProcessOk parameters s ∧ rules.Safe (Holds s) ops := by
  have hn := hS.1
  rw [hneeds] at hn
  rcases hops with rfl | rfl
  · exact ⟨hok, safe_afterLoop (hn _ (by simp)) (hn _ (by simp)) (hn _ (by simp))⟩
  · exact keeps_nothing hok hS hgives

theorem keeps_loadStopRequested : Keeps D P .loadStopRequested := by
  intro parameters s s' rest ops hok hend hS h
  cases h
  exact keeps_branch hok hS rfl rfl (by split <;> simp)

theorem keeps_loadOk : Keeps D P .loadOk := by
  intro parameters s s' rest ops hok hend hS h
  cases h
  exact keeps_branch hok hS rfl rfl (by split <;> simp)

theorem keeps_loadProcessFailed : Keeps D P .loadProcessFailed := by
  intro parameters s s' rest ops hok hend hS h
  cases h
  exact keeps_branch hok hS rfl rfl (by split <;> simp)

theorem keeps_spinOnce : Keeps D P .spinOnce := by
  intro parameters s s' rest ops hok hend hS h
  have hn := hS.1
  cases h
  exact ⟨hok, safe_loop (hn _ (by simp)) (hn _ (by simp)) (hn _ (by simp))
    (keeps_nothing hok hS rfl).2⟩

/-! #### The camera publisher -/

theorem keeps_stopCamera : Keeps D P .stopCamera := by
  intro parameters s s' rest ops hok hend hS h
  have hready : Holds s .cameraReady := hS.1 _ (by simp)
  obtain ⟨rfl, ⟨rfl, hskip⟩ | ⟨rfl, hmade⟩⟩ := stopCamera_cases h
  · have hdone : Holds s' .cameraDone :=
      (ready_camera hready).1 fun hstarted => by cases (hskip true hstarted).1
    exact ⟨hok, hS.tail (fun f hf _ => hf) (by simpa using ⟨hdone, hready⟩)⟩
  · exact ⟨hok, safe_cleanup ((ready_camera hready).2 hmade) hS.2⟩

theorem CameraEffect.returnCleanup {result : Bool} (hok : ProcessOk parameters s)
    (he : CameraEffect parameters s t ⟨.owner, .step⟩)
    (hcall : s.cameraCall = [.returnCleanup result]) :
    t.cameraCall = [] ∧
      (result = true → CameraAccepted s → t.camera.shared.cleanupComplete = true) ∧
      (result = false → .joinFailed ∈ t.camera.shared.incidents) := by
  obtain ⟨hL, hthreads⟩ := Camera.reachable_core hok.camera
  have hanswer := Camera.reachable_answer hok.camera
  have hsafe := (hthreads .owner : Camera.OwnerOk s.camera.shared (s.camera.locals .owner)).safe
  rw [show (s.camera.locals .owner : Camera.OwnerLocal).ops = _ from hcall] at hanswer hsafe
  have hverdict : Camera.Holds s.camera.shared (.verdict result) := hsafe.1 _ (by simp)
  obtain ⟨l, hst, hl⟩ := he.ownerStep
  obtain ⟨-, hops, -⟩ | ⟨op, ops, hops, hexec⟩ := Camera.ownerStep_cases hst
  · exact absurd (hcall.symm.trans hops) (by simp)
  · obtain ⟨rfl, rfl⟩ := List.cons.inj (hcall.symm.trans hops)
    obtain ⟨hshared, hl'⟩ := Prod.mk.inj (Option.some.inj hexec)
    rw [hl, ← hl', ← hshared]
    refine ⟨rfl, fun hresult haccepted => ?_, fun hresult => hanswer.joinFailed (.inl ?_)⟩
    · exact hverdict hresult (hL.startReturned _ haccepted)
    · simp [hresult]

theorem keeps_cleanupCameraReturn : Keeps D P .cleanupCameraReturn := by
  intro parameters s s' rest ops hok hend hS h
  have haccepted : Holds s .cameraAccepted := hS.1 _ (by simp)
  obtain ⟨result, t, hcall, ht, hends⟩ := cleanupCameraReturn_cases h
  have he := cameraStep_effect ht
  obtain ⟨hcall', hcomplete, hjoin⟩ := he.returnCleanup hok hcall
  have hok' := hok.cameraStep hend he
  obtain ⟨hresult, rfl, rfl⟩ | ⟨hresult, rfl, rfl⟩ := hends
  · refine ⟨hok', hS.tail (fun f hf hl => he.holds hl hf) ?_⟩
    have hcleaned : Holds s' .cameraCleaned :=
      haccepted.imp he.escaped.trans fun ha => ⟨hcall', hcomplete hresult ha⟩
    simpa using hcleaned
  · have hk : Kept t { t with processFailed := true } := ⟨rfl, rfl, rfl, rfl, rfl, fun _ => rfl⟩
    refine ⟨hk.ok hok' (he.ending.trans hend) fun _ => .inr (.inr (.inl (hjoin hresult))), ?_⟩
    simpa using .inr (.joinFailed (hjoin hresult))

theorem keeps_loadCameraFailed : Keeps D P .loadCameraFailed := by
  intro parameters s s' rest ops hok hend hS h
  have haccepted : Holds s .cameraAccepted := hS.1 _ (by simp)
  have hcleaned : Holds s .cameraCleaned := hS.1 _ (by simp)
  cases h
  have hk : Kept s { s with
      processFailed := s.processFailed || s.camera.shared.failed, cameraPublisher := some false } :=
    ⟨rfl, rfl, rfl, rfl, rfl, fun hfailed => by simp [hfailed]⟩
  refine ⟨hk.ok hok hend fun hfailed => ?_, hS.tail (fun f hf hl => ?_) ?_⟩
  · exact (Bool.or_eq_true_iff.mp hfailed).imp_right .inl
  · exact hk.holds (fun hcamera => absurd hcamera hl) (fun _ => rfl) hf
  · have hdone : Holds { s with
        processFailed := s.processFailed || s.camera.shared.failed, cameraPublisher := some false }
        .cameraDone := by
      rcases haccepted with hescaped | haccepted
      · exact .inl hescaped
      rcases hcleaned with hescaped | ⟨hcall, hcomplete⟩
      · exact .inl hescaped
      refine .inr (.inr ⟨haccepted, ?_⟩)
      cases hfailed : s.camera.shared.failed with
      | true => simp
      | false => exact .inr ⟨hcall, hcomplete, hfailed⟩
    simpa using ⟨hdone, cameraReady_of_done hdone⟩

theorem keeps_exitProcess : Keeps D P .exitProcess := by
  intro parameters s s' rest ops hok hend hS h
  have hmishap : Holds s .mishap := hS.1 _ (by simp)
  cases h
  refine ⟨⟨hok.camera, hok.imu, hok.guilty, fun ending hending => ?_⟩, by simp⟩
  obtain rfl := Option.some.inj hending
  have hmishap' : Mishap s := hmishap.elim .escaped id
  refine iff_of_false (by simp) (not_not_intro ?_)
  exact hmishap'.mono id (List.prefix_refl _) (List.prefix_refl _)

theorem keeps_resetCamera : Keeps D P .resetCamera := by
  intro parameters s s' rest ops hok hend hS h
  have hdone : Holds s .cameraDone := hS.1 _ (by simp)
  cases h
  have hk : Kept s { s with cameraPublisher := none } := ⟨rfl, rfl, rfl, rfl, rfl, id⟩
  have hdone' : Holds { s with cameraPublisher := none } .cameraDone :=
    hdone.imp_right fun hd => hd.congr rfl (.inr rfl) id
  refine ⟨hk.ok hok hend .inl, hS.tail (fun f hf hl => ?_) ?_⟩
  · exact hk.holds (fun hcamera => absurd hcamera hl) (fun _ => rfl) hf
  · simpa using ⟨hdone', cameraReady_of_done hdone'⟩

/-! #### The IMU publisher -/

theorem keeps_stopImu : Keeps D P .stopImu := by
  intro parameters s s' rest ops hok hend hS h
  have hready : Holds s .imuReady := hS.1 _ (by simp)
  obtain ⟨rfl, ⟨rfl, hskip⟩ | ⟨rfl, hmade⟩⟩ := stopImu_cases h
  · have hdone : Holds s' .imuDone := (ready_imu hready).1 hskip
    exact ⟨hok, hS.tail (fun f hf _ => hf) (by simpa using ⟨hdone, hready⟩)⟩
  · exact ⟨hok, safe_stop ((ready_imu hready).2 hmade) hS.2⟩

theorem ImuEffect.returnStop {result : Bool} (hok : ProcessOk parameters s)
    (he : ImuEffect parameters s t ⟨.owner, .reply .done⟩)
    (hcall : s.imuCall = [.returnStop result]) :
    t.imuCall = [] ∧ ImuStopped t ∧ t.imu.shared.failed = s.imu.shared.failed ∧
      t.imu.shared.stopFailed = !result ∧ s.imu.shared.stopFailed = !result := by
  have hsafe := (Imu.reachable_owner hok.imu).2.safe
  rw [show (s.imu.locals .owner : Imu.OwnerLocal).ops = _ from hcall] at hsafe
  have hverdict : s.imu.shared.stopFailed = !result := hsafe.1 (.verdict result) (by simp)
  obtain ⟨l, hst, hl⟩ := he.ownerStep
  obtain ⟨-, hops, -⟩ | ⟨op, ops, r, hops, hexec, -⟩ := Imu.ownerStep_cases hst
  · exact absurd (hcall.symm.trans hops) (by simp)
  · obtain ⟨rfl, rfl⟩ := List.cons.inj (hcall.symm.trans hops)
    cases r <;> try cases hexec
    obtain ⟨hshared, hl'⟩ := Prod.mk.inj (Option.some.inj hexec)
    rw [ImuStopped, hl, ← hl', ← hshared]
    exact ⟨rfl, ⟨result, by simp [Imu.Core.emit]⟩, rfl, hverdict, hverdict⟩

theorem keeps_stopImuCoreReturn : Keeps D P .stopImuCoreReturn := by
  intro parameters s s' rest ops hok hend hS h
  have haccepted : Holds s .imuAccepted := hS.1 _ (by simp)
  obtain ⟨result, t, hcall, ht, rfl, rfl⟩ := stopImuCoreReturn_cases h
  have he := imuStep_effect ht
  obtain ⟨hcall', hstopped, -, hverdict, -⟩ := he.returnStop hok hcall
  have hk : Kept t { t with processFailed := t.processFailed || !result } :=
    ⟨rfl, rfl, rfl, rfl, rfl, fun hfailed => by simp [hfailed]⟩
  refine ⟨hk.ok (hok.imuStep hend he) (he.ending.trans hend) fun hfailed => ?_,
    hS.tail (fun f hf hl => ?_) ?_⟩
  · refine (Bool.or_eq_true_iff.mp hfailed).imp_right fun hresult => ?_
    exact .inr (.inr (.inr (.inl (hverdict.trans hresult))))
  · exact hk.holds (fun _ => rfl) (fun himu => absurd himu hl) (he.holds hl hf)
  · have hstop : Holds { t with processFailed := t.processFailed || !result } .imuStopped := by
      refine .inr ⟨hcall', hstopped, ?_⟩
      cases result with
      | true => exact .inr hverdict
      | false => simp
    simpa using hstop

theorem keeps_loadImuFailed : Keeps D P .loadImuFailed := by
  intro parameters s s' rest ops hok hend hS h
  have haccepted : Holds s .imuAccepted := hS.1 _ (by simp)
  have hstopped : Holds s .imuStopped := hS.1 _ (by simp)
  cases h
  have hk : Kept s { s with
      processFailed := s.processFailed || s.imu.shared.failed, imuPublisher := some false } :=
    ⟨rfl, rfl, rfl, rfl, rfl, fun hfailed => by simp [hfailed]⟩
  refine ⟨hk.ok hok hend fun hfailed => ?_, hS.tail (fun f hf hl => ?_) ?_⟩
  · exact (Bool.or_eq_true_iff.mp hfailed).imp_right fun hfailed => .inr (.inr (.inl hfailed))
  · exact hk.holds (fun _ => rfl) (fun himu => absurd himu hl) hf
  · have hdone : Holds { s with
        processFailed := s.processFailed || s.imu.shared.failed, imuPublisher := some false }
        .imuDone := by
      rcases haccepted with hescaped | haccepted
      · exact .inl hescaped
      rcases hstopped with hescaped | ⟨hcall, hstopped, hverdict⟩
      · exact .inl hescaped
      refine .inr (.inr ⟨haccepted, ?_⟩)
      cases hfailed : s.imu.shared.failed with
      | true => simp
      | false =>
        rcases hverdict with hverdict | hverdict
        · exact .inl (by simp [hverdict])
        · exact .inr ⟨hstopped, hfailed, hverdict, .inl hcall⟩
    simpa using ⟨hdone, imuReady_of_done hdone⟩

theorem keeps_destroyImuCore : Keeps D P .destroyImuCore := by
  intro parameters s s' rest ops hok hend hS h
  have hdone : Holds s .imuDone := hS.1 _ (by simp)
  obtain ⟨rfl, ⟨-, rfl⟩ | ⟨hmade, ht⟩⟩ := destroyImuCore_cases h
  · exact ⟨hok, hS.tail (fun f hf _ => hf) (by simpa using ⟨hdone, imuReady_of_done hdone⟩)⟩
  · have he := imuStep_effect ht
    have hdone' : Holds s' .imuDone := by
      refine hdone.imp he.escaped.trans ?_
      rintro (huntouched | ⟨haccepted, hstill⟩)
      · exact absurd huntouched.1 hmade
      · refine .inr ⟨he.onward.2.subset haccepted, hstill.imp he.processFailed ?_⟩
        obtain ⟨hshared, hcall⟩ := he.destruct
        rw [ImuStill, ImuStill, ImuStopped, ImuStopped, hshared]
        exact fun hs => ⟨hs.1, hs.2.1, hs.2.2.1, .inr (.inl hcall)⟩
    exact ⟨hok.imuStep hend he,
      hS.tail (fun f hf hl => he.holds hl hf) (by simpa using ⟨hdone', imuReady_of_done hdone'⟩)⟩

theorem keeps_destroyImuCoreReturn : Keeps D P .destroyImuCoreReturn := by
  intro parameters s s' rest ops hok hend hS h
  have hdone : Holds s .imuDone := hS.1 _ (by simp)
  obtain ⟨rfl, ⟨-, rfl⟩ | ⟨hmade, result, hcall, ht⟩⟩ := destroyImuCoreReturn_cases h
  · exact ⟨hok, hS.tail (fun f hf _ => hf) (by simpa using ⟨hdone, imuReady_of_done hdone⟩)⟩
  · have he := imuStep_effect ht
    obtain ⟨hcall', hstopped, hfailed, hstop, hverdict⟩ := he.returnStop hok hcall
    have hdone' : Holds s' .imuDone := by
      refine hdone.imp he.escaped.trans ?_
      rintro (huntouched | ⟨haccepted, hstill⟩)
      · exact absurd huntouched.1 hmade
      · refine .inr ⟨he.onward.2.subset haccepted, hstill.imp he.processFailed fun hs => ?_⟩
        exact ⟨hstopped, hfailed.trans hs.2.1, (hstop.trans hverdict.symm).trans hs.2.2.1, .inl hcall'⟩
    exact ⟨hok.imuStep hend he,
      hS.tail (fun f hf hl => he.holds hl hf) (by simpa using ⟨hdone', imuReady_of_done hdone'⟩)⟩

theorem keeps_resetImu : Keeps D P .resetImu := by
  intro parameters s s' rest ops hok hend hS h
  have hdone : Holds s .imuDone := hS.1 _ (by simp)
  cases h
  have hk : Kept s { s with imuPublisher := none } := ⟨rfl, rfl, rfl, rfl, rfl, id⟩
  have hdone' : Holds { s with imuPublisher := none } .imuDone :=
    hdone.imp_right fun hd => hd.congr rfl (.inr rfl) id
  refine ⟨hk.ok hok hend .inl, hS.tail (fun f hf hl => ?_) ?_⟩
  · exact hk.holds (fun _ => rfl) (fun himu => absurd himu hl) hf
  · simpa using ⟨hdone', imuReady_of_done hdone'⟩

/-! #### The end -/

theorem keeps_catchError : Keeps D P .catchError := by
  intro parameters s s' rest ops hok hend hS h
  have hthrown : Holds s .thrown := hS.1 _ (by simp)
  cases h
  have hescaped : s.escaped = true := hthrown.elim id False.elim
  have hall : ∀ f, Holds { s with exitCode := 1 } f := by
    intro f
    cases f with
    | caught => simp [Holds, hescaped]
    | _ => exact .inl hescaped
  refine ⟨⟨hok.camera, hok.imu, hok.guilty, fun ending hending => ?_⟩, ?_⟩
  · exact absurd (hend.symm.trans hending) (by simp)
  · exact hS.tail (fun f _ _ => hall f) fun f _ => hall f

theorem keeps_shutdown : Keeps D P .shutdown := by
  intro parameters s s' rest ops hok hend hS h
  cases h
  have hk : Kept s { s with ok := false } := ⟨rfl, rfl, rfl, rfl, rfl, id⟩
  exact ⟨hk.ok hok hend .inl,
    hS.tail (fun f hf _ => hk.holds (fun _ => rfl) (fun _ => rfl) hf) (by simp)⟩

theorem camera_guilty (hok : ProcessOk parameters s) (hdone : CameraDone s)
    (hfailed : s.camera.shared.failed = true) : Mishap s := by
  rcases hdone with huntouched | ⟨haccepted, -⟩
  · exact absurd (huntouched.2.2.2.symm.trans hfailed) (by simp)
  · have hanswer := Camera.reachable_answer hok.camera
    refine .camera ((Camera.reachable_core hok.camera).1.failed hfailed) fun hstart => ?_
    rcases hanswer.startFailed hstart with hcourse | hreturned
    · exact absurd (hanswer.first _ hcourse (by decide) _ haccepted) (by decide)
    · exact hanswer.once hreturned haccepted

theorem imu_guilty (hok : ProcessOk parameters s) (hdone : ImuDone s)
    (hcharged : Imu.Charged s.imu.shared) : Mishap s := by
  refine .imu (Imu.charged_blamed hok.imu hcharged ?_)
  rcases hdone with ⟨-, hcall, hevents, -⟩ | ⟨haccepted, -⟩
  · exact .inr ⟨hevents, hcall⟩
  · exact .inl haccepted

theorem camera_innocent (hok : ProcessOk parameters s) (hdone : CameraDone s)
    (hfailed : s.processFailed = false) : s.camera.shared.incidents = [] := by
  have hclear : s.cameraCall = [] ∧ Camera.Closed s.camera.shared ∧ s.camera.shared.failed = false := by
    rcases hdone with ⟨-, hcall, hstart, hclear⟩ | ⟨-, hprocess | ⟨hcall, hcomplete, hclear⟩⟩
    · exact ⟨hcall, .inl hstart, hclear⟩
    · exact absurd (hfailed.symm.trans hprocess) (by simp)
    · exact ⟨hcall, .inr hcomplete, hclear⟩
  by_contra hincidents
  have hrecorded := Camera.closed_recorded hok.camera hclear.2.1 hclear.1 hincidents
  exact absurd (hclear.2.2.symm.trans hrecorded) (by simp)

theorem imu_innocent (hok : ProcessOk parameters s) (hdone : ImuDone s)
    (hfailed : s.processFailed = false) : s.imu.shared.incidents = [] := by
  have hclear : Imu.Closed s.imu.shared ∧ s.imu.shared.failed = false ∧
      s.imu.shared.stopFailed = false := by
    rcases hdone with ⟨-, -, -, hstart, hclear⟩ | ⟨-, hprocess | ⟨hstopped, hclear, hstop, -⟩⟩
    · exact ⟨.inl hstart, hclear⟩
    · exact absurd (hfailed.symm.trans hprocess) (by simp)
    · exact ⟨.inr hstopped, hclear, hstop⟩
  by_contra hincidents
  have hrecorded := Imu.closed_recorded hok.imu hclear.1 hincidents
  simp [hclear.2] at hrecorded

theorem keeps_returnExitCode : Keeps D P .returnExitCode := by
  intro parameters s s' rest ops hok hend hS h
  have hcamera : Holds s .cameraDone := hS.1 _ (by simp)
  have himu : Holds s .imuDone := hS.1 _ (by simp)
  have hcaught : s.exitCode = if s.escaped then 1 else 0 := hS.1 .caught (by simp)
  cases h
  refine ⟨⟨hok.camera, hok.imu, hok.guilty, fun ending hending => ?_⟩, by simp⟩
  obtain rfl := Option.some.inj hending
  have hmishap : Mishap { s with
      ending := some (.exited (if s.processFailed then 1 else s.exitCode)) } ↔ Mishap s :=
    ⟨fun hm => hm.mono id (List.prefix_refl _) (List.prefix_refl _),
      fun hm => hm.mono id (List.prefix_refl _) (List.prefix_refl _)⟩
  rw [hmishap]
  cases hescaped : s.escaped with
  | true =>
    refine iff_of_false ?_ (not_not_intro (.escaped hescaped))
    simp [hcaught, hescaped]
  | false =>
    -- both cores are done, so that what they hold against the process is final
    have hcamera' : CameraDone s := hcamera.resolve_left (by simp [hescaped])
    have himu' : ImuDone s := himu.resolve_left (by simp [hescaped])
    cases hfailed : s.processFailed with
    | true =>
      refine iff_of_false (by simp) (not_not_intro ?_)
      rcases hok.guilty hfailed with hcause | hjoin | hcharged
      · exact camera_guilty hok hcamera' hcause
      · exact .joinFailed hjoin
      · exact imu_guilty hok himu' hcharged
    | false =>
      refine iff_of_true (by simp [hcaught, hescaped]) fun hm => ?_
      have hnone := camera_innocent hok hcamera' hfailed
      have hnone' := imu_innocent hok himu' hfailed
      cases hm with
      | escaped h => exact absurd (hescaped.symm.trans h) (by simp)
      | callbackException d h => simp [hnone] at h
      | cameraSinkException c h => simp [hnone] at h
      | joinFailed h => simp [hnone] at h
      | malformedSample h => simp [hnone'] at h
      | ringOverflow h => simp [hnone'] at h
      | imuSinkException h => simp [hnone'] at h
      | stopFailed h => simp [hnone'] at h

theorem keeps : ∀ op : MainOp, Keeps D P op
  | .makeImu => keeps_makeImu
  | .startImu => keeps_startImu
  | .startImuReturn => keeps_startImuReturn
  | .makeCamera => keeps_makeCamera
  | .startCamera => keeps_startCamera
  | .startCameraReturn => keeps_startCameraReturn
  | .loadStopRequested => keeps_loadStopRequested
  | .loadOk => keeps_loadOk
  | .loadProcessFailed => keeps_loadProcessFailed
  | .spinOnce => keeps_spinOnce
  | .stopCamera => keeps_stopCamera
  | .cleanupCamera => keeps_cleanupCamera
  | .cleanupCameraReturn => keeps_cleanupCameraReturn
  | .loadCameraFailed => keeps_loadCameraFailed
  | .exitProcess => keeps_exitProcess
  | .resetCamera => keeps_resetCamera
  | .stopImu => keeps_stopImu
  | .stopImuCore => keeps_stopImuCore
  | .stopImuCoreReturn => keeps_stopImuCoreReturn
  | .loadImuFailed => keeps_loadImuFailed
  | .destroyImuCore => keeps_destroyImuCore
  | .destroyImuCoreReturn => keeps_destroyImuCoreReturn
  | .resetImu => keeps_resetImu
  | .catchError => keeps_catchError
  | .shutdown => keeps_shutdown
  | .returnExitCode => keeps_returnExitCode
  | .loadParameters | .startImuTimer | .configureCamera | .startCameraTimer | .addNode
  | .removeNode => by
    intro parameters s s' rest ops hok hend hS h
    cases h
    exact keeps_nothing hok hS rfl

/-! ### Whole runs -/

abbrev State (D P : Type) := Transition.Config Thread (Process D P) Local

theorem init_ok (parameters : Parameters) :
    ProcessOk parameters (.init parameters : Process D P) where
  camera := .start
  imu := .start
  guilty hfailed := by cases hfailed
  ended ending hending := by cases hending

theorem init_safe (parameters : Parameters) :
    rules.Safe (Holds (.init parameters : Process D P)) (main parameters) := by
  refine safe_main parameters ?_ ?_ rfl
  · exact .inr (.inl (.inl ⟨rfl, rfl, rfl, rfl⟩))
  · exact .inr (.inl (.inl ⟨rfl, rfl, rfl, rfl, rfl, rfl⟩))

theorem main_step {a : MainAct} {ops ops' : List MainOp} (hok : ProcessOk parameters s)
    (hS : rules.Safe (Holds s) ops)
    (h : mainStep parameters a s ops = some (t, ops')) :
    ProcessOk parameters t ∧ rules.Safe (Holds t) ops' := by
  cases ops with
  | nil => cases h
  | cons op rest =>
    obtain ⟨hend, hexec⟩ := Option.ite_none_right_eq_some.mp h
    cases a with
    | step => exact keeps op parameters s t rest ops' hok hend hS hexec
    | throws standard => exact exec_throws hok hend hexec

theorem other_step {i : Thread} {a : Act D P i} {l l' : Local i} (hi : i ≠ .main)
    (hok : ProcessOk parameters s)
    (h : (process D P parameters).step i a s l = some (t, l')) :
    ProcessOk parameters t ∧ ∀ f, Holds s f → Holds t f := by
  cases i with
  | main => exact absurd rfl hi
  | camera =>
    obtain ⟨⟨hend, hinside⟩, hst⟩ := Option.ite_none_right_eq_some.mp h
    obtain ⟨t, ht, hx⟩ := Option.map_eq_some_iff.mp hst
    cases hx
    have he := cameraStep_effect ht
    exact ⟨hok.cameraStep hend he, fun f hf => he.inside hok hinside hf⟩
  | imu =>
    obtain ⟨⟨hend, hinside⟩, hst⟩ := Option.ite_none_right_eq_some.mp h
    obtain ⟨t, ht, hx⟩ := Option.map_eq_some_iff.mp hst
    cases hx
    have he := imuStep_effect ht
    exact ⟨hok.imuStep hend he, fun f hf => he.inside hok hinside hf⟩
  | signals =>
    obtain ⟨hend, hst⟩ := Option.ite_none_right_eq_some.mp h
    cases hst
    have hk : Kept s { s with stopRequested := true } := ⟨rfl, rfl, rfl, rfl, rfl, id⟩
    exact ⟨hk.ok hok hend .inl, fun f hf => hk.holds (fun _ => rfl) (fun _ => rfl) hf⟩

theorem reachable_process {s : State D P} (h : (process D P parameters).Reachable s) :
    ProcessOk parameters s.shared := by
  refine (Threads.Reachable.focus (T := process D P parameters) (i := .main)
    (J := fun s (ops : List MainOp) => ProcessOk parameters s ∧ rules.Safe (Holds s) ops)
    ⟨init_ok parameters, init_safe parameters⟩ ?_ ?_ h).1
  · intro s a s' ops _ hJ hst
    exact main_step hJ.1 hJ.2 hst
  · intro s j a s' l' hj _ hJ hst
    obtain ⟨hok, hkeep⟩ := other_step hj hJ.1 hst
    exact ⟨hok, hJ.2.mono hkeep⟩

/-- In whatever order the threads of the process run, and whatever the drivers answer, its exit
status is 0 if and only if nothing has failed. -/
theorem exit_status {s : State D P} (h : (process D P parameters).Reachable s) {ending : Ending}
    (hending : s.shared.ending = some ending) : ending = .exited 0 ↔ ¬ Mishap s.shared :=
  (reachable_process h).ended ending hending

end Process

/-! ### A run -/

def imuOnly : Parameters where
  enableCamera := false
  enableImu := true
  camera := .default
  imu := ⟨200, 8, 1, false⟩
  publishCameraInfo := false
  publishTemperature := false

def mainDoes (steps : Nat) : List (Σ i, Act Unit Unit i) := List.replicate steps ⟨.main, .step⟩

def imuDoes (as : List (Σ i, Imu.Act Unit i)) : List (Σ i, Act Unit Unit i) :=
  as.map fun a => ⟨.imu, a⟩

def lateRun : List (Σ i, Act Unit Unit i) :=
  mainDoes 3 ++
  imuDoes (Imu.ownerDoes [.reply .done, .reply (.created Imu.statusOk (some 7)),
    .reply (.status Imu.statusOk), .reply .done, .reply (.spawned true), .reply .done,
    .reply (.status Imu.statusOk)]) ++
  mainDoes 3 ++
  imuDoes (Imu.producerDoes
    [.callback (some ⟨Imu.sampleStructSize, 5, ()⟩) 11, .step, .step, .step, .step, .step]) ++
  [⟨.signals, ()⟩] ++ mainDoes 7 ++
  imuDoes (Imu.ownerDoes [.reply .done, .reply .done, .reply (.status Imu.statusOk), .reply .done,
    .reply .done]) ++
  imuDoes (Imu.publisherDoes [.step, .step, .step, .step, .step, .step, .throws, .step, .step, .step,
    .step]) ++
  imuDoes (Imu.ownerDoes [.reply .done, .reply .done, .reply .done, .reply .done]) ++
  mainDoes 4 ++ imuDoes (Imu.ownerDoes [.reply .done]) ++ mainDoes 3 ++
  imuDoes (Imu.ownerDoes [.reply .done]) ++ mainDoes 4

def lateEnd : State Unit Unit :=
  ((process Unit Unit imuOnly).toSystem.run lateRun (process Unit Unit imuOnly).toSystem.start).get rfl

theorem exit_status_late : lateEnd.shared.imu.shared.incidents = [.sinkException] ∧
    (Ending.exited 1 = .exited 0 ↔ ¬ Mishap lateEnd.shared) :=
  ⟨rfl, exit_status (System.reachable_get _) rfl⟩

end RoboBaton.Node
