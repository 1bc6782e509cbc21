import RoboBaton.Node.Places

/-! Once it is asked to stop, the process ends: the main thread leaves its loop, stops both cores
and returns, and no order of the steps of the other threads can keep it from that for ever. -/

namespace RoboBaton.Node
open Transition Discipline
variable {D P : Type}

/-! ### The work of the main thread -/

def cleanupWork : ℕ := 43

def imuStopWork : ℕ := 14

def unwindWork : ℕ := 111 + 3 * imuStopWork

def leaveWork : ℕ := 111 + unwindWork + 3 * imuStopWork

def MainOp.work : MainOp → ℕ
  | .loadParameters | .makeImu | .startImuReturn | .startImuTimer | .makeCamera | .configureCamera
  | .startCameraReturn | .startCameraTimer | .addNode | .removeNode => 1 + unwindWork
  | .startImu => 22 + unwindWork
  | .startCamera => 513 + unwindWork
  | .loadStopRequested | .loadOk | .loadProcessFailed => 1 + leaveWork
  | .spinOnce => 2 + leaveWork
  | .stopCamera => 48
  | .cleanupCamera => 1 + cleanupWork
  | .cleanupCameraReturn => 2
  | .stopImu => 4 + imuStopWork
  | .stopImuCore | .destroyImuCore => 1 + imuStopWork
  | _ => 1

/-- The stop request is seen at the head of the loop: what follows there is not executed. -/
def mainWork : List MainOp → ℕ
  | [] => 0
  | .loadStopRequested :: _ => 1 + leaveWork
  | op :: ops => op.work + mainWork ops

theorem mainWork_cons {op : MainOp} (h : op ≠ .loadStopRequested) (ops : List MainOp) :
    mainWork (op :: ops) = op.work + mainWork ops := by
  cases op <;> first | rfl | exact absurd rfl h

theorem afterLoop_work : mainWork afterLoop = leaveWork := by
  simp only [afterLoop, stopPublishers, destroyCamera, destroyImu, leave, mainWork, MainOp.work,
    List.cons_append, List.nil_append, leaveWork]
  omega

theorem unwind_work (op : MainOp) {unwind : List MainOp} (h : op.unwind = some unwind) :
    mainWork (unwind ++ .catchError :: leave) ≤ unwindWork ∧ 1 + unwindWork ≤ op.work := by
  constructor
  · obtain rfl | rfl : unwind = destroyMembers ∨ unwind = stopPublishers := by
      cases op <;> cases h <;> simp
    · simp only [destroyMembers, destroyCamera, destroyImu, leave, mainWork, MainOp.work,
        List.cons_append, List.nil_append, unwindWork]
      omega
    · simp only [stopPublishers, destroyCamera, destroyImu, leave, mainWork, MainOp.work,
        List.cons_append, List.nil_append, unwindWork]
      omega
  · cases op <;> cases h <;> simp only [MainOp.work, leaveWork] <;> omega

section Process
variable [Fintype D] [DecidableEq D] [Inhabited P] {parameters : Parameters} {s t : Process D P}

/-! ### What a step costs -/

def coreWork (s : Process D P) : ℕ := Camera.left s.camera + Imu.left s.imu

theorem CameraEffect.paid {e : Σ i : Camera.Thread D, Camera.Act i} (hok : ProcessOk parameters s)
    (he : CameraEffect parameters s t e) :
    coreWork t + Camera.cost e ≤ coreWork s + Camera.gain e := by
  have hpaid := Camera.step_paid hok.camera he.next
  rw [coreWork, coreWork, he.imu]
  omega

theorem ImuEffect.paid {e : Σ i, Imu.Act P i} (hok : ProcessOk parameters s)
    (he : ImuEffect parameters s t e) :
    coreWork t + Imu.cost s.imu e ≤ coreWork s + Imu.gain e := by
  have hpaid := Imu.step_paid hok.imu he.next
  rw [coreWork, coreWork, he.camera]
  omega

omit [DecidableEq D] [Inhabited P] in
theorem throw_paid {unwind ops : List MainOp} {standard : Bool}
    (h : s.throw unwind standard = (t, ops))
    (hwork : mainWork (unwind ++ .catchError :: leave) ≤ unwindWork) :
    coreWork t + mainWork ops + 1 ≤ coreWork s + (1 + unwindWork) := by
  cases standard with
  | true =>
    obtain ⟨rfl, rfl⟩ := Prod.mk.inj h
    simp only [coreWork]
    omega
  | false =>
    obtain ⟨rfl, rfl⟩ := Prod.mk.inj h
    simp only [coreWork, mainWork]
    omega

/-! #### Instructions of the main thread -/

theorem cameraReturn_paid (hok : ProcessOk parameters s)
    (hu : s.cameraStep parameters ⟨.owner, .step⟩ = some t) : coreWork t + 1 ≤ coreWork s :=
  (cameraStep_effect hu).paid hok

theorem imuReturn_paid (hok : ProcessOk parameters s)
    (hu : s.imuStep parameters ⟨.owner, .reply .done⟩ = some t) : coreWork t + 1 ≤ coreWork s :=
  (imuStep_effect hu).paid hok

omit [DecidableEq D] [Inhabited P] in
theorem startReturn_paid {u : Process D P} {rest ops : List MainOp} {p : Prop}
    (hpaid : coreWork u + 1 ≤ coreWork s)
    (hends : coreWork t = coreWork u ∧ ops = rest ∨
      p ∧ u.throw destroyMembers true = (t, ops)) :
    coreWork t + mainWork ops + 1 ≤ coreWork s + (1 + unwindWork + mainWork rest) := by
  rcases hends with ⟨hsame, rfl⟩ | ⟨-, hthrow⟩
  · omega
  · have hthrown := throw_paid hthrow (unwind_work .startImu rfl).1
    omega

theorem exec_throws_paid {op : MainOp} {rest ops : List MainOp} {standard : Bool}
    (h : op.exec parameters s rest (.throws standard) = some (t, ops)) :
    coreWork t + mainWork ops + 1 ≤ coreWork s + mainWork (op :: rest) := by
  obtain ⟨unwind, hunwind, hthrow⟩ := throws_cases h
  obtain ⟨hwork, hop⟩ := unwind_work op hunwind
  rw [mainWork_cons (by rintro rfl; cases hunwind)]
  exact (throw_paid hthrow hwork).trans (by omega)

theorem branch_paid {op : MainOp} {rest : List MainOp} (hop : op.work = 1 + leaveWork)
    (hne : op ≠ .loadStopRequested) (p : Prop) [Decidable p] :
    mainWork (if p then afterLoop else rest) + 1 ≤ mainWork (op :: rest) ∧
      mainWork (if p then rest else afterLoop) + 1 ≤ mainWork (op :: rest) := by
  have hleave := afterLoop_work
  rw [mainWork_cons hne, hop]
  constructor <;> split <;> omega

theorem exec_paid {op : MainOp} {rest ops : List MainOp} (hok : ProcessOk parameters s)
    (hstop : s.stopRequested = true) (h : op.exec parameters s rest .step = some (t, ops)) :
    coreWork t + mainWork ops + 1 ≤ coreWork s + mainWork (op :: rest) := by
  cases op with
  | loadParameters | startImuTimer | configureCamera | startCameraTimer | addNode | removeNode
  | makeImu | makeCamera | loadCameraFailed | resetCamera | resetImu | catchError | shutdown
  | loadImuFailed | exitProcess | returnExitCode =>
    cases h
    rw [mainWork_cons (by simp)]
    simp only [MainOp.work, mainWork, coreWork]
    omega
  | loadStopRequested =>
    cases h
    -- asked to stop, the loop is left
    rw [if_pos hstop, afterLoop_work]
    simp only [mainWork]
    omega
  | loadOk =>
    cases h
    exact Nat.add_le_add_left (branch_paid rfl (by simp) _).2 _
  | loadProcessFailed =>
    cases h
    exact Nat.add_le_add_left (branch_paid rfl (by simp) _).1 _
  | spinOnce =>
    cases h
    -- the loop goes around, but no further than its look at the stop flag
    rw [mainWork_cons (by simp)]
    simp only [loop, List.cons_append, mainWork, MainOp.work]
    omega
  | stopCamera =>
    rw [mainWork_cons (by simp)]
    obtain ⟨rfl, ⟨rfl, -⟩ | ⟨rfl, -⟩⟩ := stopCamera_cases h <;>
      simp only [MainOp.work, List.cons_append, List.nil_append, mainWork, cleanupWork] <;> omega
  | stopImu =>
    rw [mainWork_cons (by simp)]
    obtain ⟨rfl, ⟨rfl, -⟩ | ⟨rfl, -⟩⟩ := stopImu_cases h <;>
      simp only [MainOp.work, List.cons_append, List.nil_append, mainWork] <;> omega
  | startImu | stopImuCore =>
    obtain ⟨hu, rfl⟩ := step_cases h
    have hpaid := (imuStep_effect hu).paid hok
    rw [mainWork_cons (by simp)]
    simp only [Imu.cost, Imu.OwnerAct.cost, Imu.gain, Imu.OwnerAct.gain] at hpaid
    simp only [MainOp.work, imuStopWork]
    omega
  | destroyImuCore =>
    rw [mainWork_cons (by simp)]
    obtain ⟨rfl, ⟨-, rfl⟩ | ⟨-, hu⟩⟩ := destroyImuCore_cases h
    · simp only [MainOp.work]
      omega
    · have hpaid := (imuStep_effect hu).paid hok
      simp only [Imu.cost, Imu.OwnerAct.cost, Imu.gain, Imu.OwnerAct.gain] at hpaid
      simp only [MainOp.work, imuStopWork]
      omega
  | startCamera | cleanupCamera =>
    obtain ⟨hu, rfl⟩ := step_cases h
    have hpaid := (cameraStep_effect hu).paid hok
    rw [mainWork_cons (by simp)]
    simp only [Camera.cost, Camera.OwnerAct.cost, Camera.gain, Camera.OwnerAct.gain] at hpaid
    simp only [MainOp.work, cleanupWork]
    omega
  | startImuReturn =>
    obtain ⟨result, u, -, hu, hends⟩ := startImuReturn_cases h
    rw [mainWork_cons (by simp)]
    refine startReturn_paid (imuReturn_paid hok hu) (hends.imp_left ?_)
    rintro ⟨-, rfl, rfl⟩
    exact ⟨rfl, rfl⟩
  | startCameraReturn =>
    obtain ⟨result, u, -, hu, hends⟩ := startCameraReturn_cases h
    rw [mainWork_cons (by simp)]
    refine startReturn_paid (cameraReturn_paid hok hu) (hends.imp_left ?_)
    rintro ⟨-, rfl, rfl⟩
    exact ⟨rfl, rfl⟩
  | cleanupCameraReturn =>
    obtain ⟨result, u, -, hu, hends⟩ := cleanupCameraReturn_cases h
    have hpaid := cameraReturn_paid hok hu
    rw [mainWork_cons (by simp)]
    obtain ⟨-, rfl, rfl⟩ | ⟨-, rfl, rfl⟩ := hends <;>
      simp only [MainOp.work, coreWork, mainWork] at hpaid ⊢ <;> omega
  | stopImuCoreReturn =>
    obtain ⟨result, u, -, hu, rfl, rfl⟩ := stopImuCoreReturn_cases h
    have hpaid := imuReturn_paid hok hu
    rw [mainWork_cons (by simp)]
    simp only [MainOp.work, coreWork] at hpaid ⊢
    omega
  | destroyImuCoreReturn =>
    rw [mainWork_cons (by simp)]
    obtain ⟨rfl, ⟨-, rfl⟩ | ⟨-, result, -, hu⟩⟩ := destroyImuCoreReturn_cases h
    · simp only [MainOp.work]
      omega
    · have hpaid := imuReturn_paid hok hu
      simp only [MainOp.work]
      omega

theorem mainStep_paid {a : MainAct} {ops ops' : List MainOp} (hok : ProcessOk parameters s)
    (hstop : s.stopRequested = true) (h : mainStep parameters a s ops = some (t, ops')) :
    coreWork t + mainWork ops' + 1 ≤ coreWork s + mainWork ops := by
  cases ops with
  | nil => cases h
  | cons op rest =>
    obtain ⟨-, hexec⟩ := Option.ite_none_right_eq_some.mp h
    cases a with
    | step => exact exec_paid hok hstop hexec
    | throws standard => exact exec_throws_paid hexec

/-! ### The whole process -/

/-- A signal, a new callback, a compare-exchange that failed for no reason and the looks of the IMU
publisher at an empty ring that is not asked to stop do not count. -/
def cost (s : State D P) : (Σ i, Act D P i) → ℕ
  | ⟨.main, _⟩ => 1
  | ⟨.camera, e⟩ => Camera.cost (e : Σ i : Camera.Thread D, Camera.Act i)
  | ⟨.imu, e⟩ => Imu.cost s.shared.imu (e : Σ i, Imu.Act P i)
  | ⟨.signals, _⟩ => 0

def isCameraCallback : (Σ i, Act D P i) → Bool
  | ⟨.camera, e⟩ => Camera.isCallback (e : Σ i : Camera.Thread D, Camera.Act i)
  | _ => false

def isImuCallback : (Σ i, Act D P i) → Bool
  | ⟨.imu, e⟩ => Imu.isCallback (e : Σ i, Imu.Act P i)
  | _ => false

def left (s : State D P) : ℕ := coreWork s.shared + mainWork (s.locals .main)

omit [Inhabited P] in
theorem camera_gain {e : Σ i : Camera.Thread D, Camera.Act i} (he : CameraEffect parameters s t e)
    (hinside : s.cameraInside e = true) :
    Camera.gain e = 118 * if Camera.isCallback e then 1 else 0 := by
  obtain ⟨i, a⟩ := e
  cases i with
  | dispatcher d => cases (a : Camera.CallbackAct) <;> rfl
  | worker c => cases (a : Camera.WorkerAct) <;> rfl
  | owner =>
    obtain ⟨l, hst, -⟩ := he.ownerStep
    obtain ⟨-, hops, -⟩ | ⟨op, ops, hops, hexec⟩ := Camera.ownerStep_cases hst
    · exact absurd rfl (outside_camera hinside hops)
    · cases a with
      | start config sink notifier => cases op <;> cases hexec
      | cleanup => cases op <;> cases hexec
      | _ => rfl

omit [Fintype D] [DecidableEq D] in
theorem imu_gain {e : Σ i, Imu.Act P i} (he : ImuEffect parameters s t e)
    (hinside : s.imuInside e = true) :
    Imu.gain e = 34 * if Imu.isCallback e then 1 else 0 := by
  obtain ⟨i, a⟩ := e
  cases i with
  | publisher => rfl
  | producer => cases (a : Imu.ProducerAct P) <;> rfl
  | owner =>
    obtain ⟨l, hst, -⟩ := he.ownerStep
    obtain ⟨r, rfl⟩ := Imu.ownerStep_reply hst fun hops => outside_imu hinside hops rfl
    rfl

theorem step_paid {s u : State D P} {e : Σ i, Act D P i}
    (hs : (process D P parameters).Reachable s) (hstop : s.shared.stopRequested = true)
    (h : (process D P parameters).next e s = some u) :
    left u + cost s e ≤ left s + (118 * (if isCameraCallback e then 1 else 0) +
      34 * (if isImuCallback e then 1 else 0)) := by
  have hok := reachable_process hs
  obtain ⟨i, a⟩ := e
  obtain ⟨s', l', hst, rfl⟩ := Threads.next_eq_some h
  cases i with
  | main =>
    have hpaid := mainStep_paid hok hstop hst
    show coreWork s' + mainWork l' + 1 ≤ coreWork s.shared + mainWork (s.locals .main) + 0
    omega
  | camera =>
    obtain ⟨⟨-, hinside⟩, hst⟩ := Option.ite_none_right_eq_some.mp hst
    obtain ⟨t, ht, hx⟩ := Option.map_eq_some_iff.mp hst
    cases hx
    have he := cameraStep_effect ht
    -- inside the process only callbacks bring new work
    have hpaid := he.paid hok
    rw [camera_gain he hinside] at hpaid
    show coreWork s' + mainWork (s.locals .main) + Camera.cost a ≤
      coreWork s.shared + mainWork (s.locals .main) +
        (118 * (if Camera.isCallback a then 1 else 0) + 0)
    omega
  | imu =>
    obtain ⟨⟨-, hinside⟩, hst⟩ := Option.ite_none_right_eq_some.mp hst
    obtain ⟨t, ht, hx⟩ := Option.map_eq_some_iff.mp hst
    cases hx
    have he := imuStep_effect ht
    have hpaid := he.paid hok
    rw [imu_gain he hinside] at hpaid
    show coreWork s' + mainWork (s.locals .main) + Imu.cost s.shared.imu a ≤
      coreWork s.shared + mainWork (s.locals .main) +
        (0 + 34 * (if Imu.isCallback a then 1 else 0))
    omega
  | signals =>
    obtain ⟨-, hst⟩ := Option.ite_none_right_eq_some.mp hst
    cases hst
    exact le_rfl

/-! ### The request is not withdrawn -/

omit [Inhabited P] in
theorem cameraStep_signal {e : Σ i : Camera.Thread D, Camera.Act i}
    (h : s.cameraStep parameters e = some t) : t.stopRequested = s.stopRequested := by
  obtain ⟨camera, -, rfl⟩ := Option.map_eq_some_iff.mp h
  split <;> rfl

omit [Fintype D] [DecidableEq D] in
theorem imuStep_signal {e : Σ i, Imu.Act P i} (h : s.imuStep parameters e = some t) :
    t.stopRequested = s.stopRequested := by
  obtain ⟨imu, -, rfl⟩ := Option.map_eq_some_iff.mp h
  split <;> rfl

omit [Fintype D] [DecidableEq D] [Inhabited P] in
theorem throw_signal {unwind ops : List MainOp} {standard : Bool}
    (h : s.throw unwind standard = (t, ops)) : t.stopRequested = s.stopRequested := by
  cases standard <;> cases h <;> rfl

theorem exec_signal {op : MainOp} {rest ops : List MainOp} {a : MainAct}
    (h : op.exec parameters s rest a = some (t, ops)) : t.stopRequested = s.stopRequested := by
  cases a with
  | throws standard =>
    obtain ⟨unwind, -, hthrow⟩ := throws_cases h
    exact throw_signal hthrow
  | step =>
    cases op with
    | startImu | stopImuCore => exact imuStep_signal (step_cases h).1
    | startCamera | cleanupCamera => exact cameraStep_signal (step_cases h).1
    | startImuReturn =>
      obtain ⟨result, u, -, hu, hends⟩ := startImuReturn_cases h
      have hsame := imuStep_signal hu
      obtain ⟨-, rfl, -⟩ | ⟨-, hthrow⟩ := hends
      · exact hsame
      · exact (throw_signal hthrow).trans hsame
    | startCameraReturn =>
      obtain ⟨result, u, -, hu, hends⟩ := startCameraReturn_cases h
      have hsame := cameraStep_signal hu
      obtain ⟨-, rfl, -⟩ | ⟨-, hthrow⟩ := hends
      · exact hsame
      · exact (throw_signal hthrow).trans hsame
    | cleanupCameraReturn =>
      obtain ⟨result, u, -, hu, hends⟩ := cleanupCameraReturn_cases h
      have hsame := cameraStep_signal hu
      obtain ⟨-, rfl, -⟩ | ⟨-, rfl, -⟩ := hends <;> exact hsame
    | stopImuCoreReturn =>
      obtain ⟨result, u, -, hu, rfl, -⟩ := stopImuCoreReturn_cases h
      have hsame := imuStep_signal hu
      exact hsame
    | destroyImuCore =>
      obtain ⟨-, ⟨-, rfl⟩ | ⟨-, hu⟩⟩ := destroyImuCore_cases h
      · rfl
      · exact imuStep_signal hu
    | destroyImuCoreReturn =>
      obtain ⟨-, ⟨-, rfl⟩ | ⟨-, result, -, hu⟩⟩ := destroyImuCoreReturn_cases h
      · rfl
      · exact imuStep_signal hu
    | stopCamera => rw [(stopCamera_cases h).1]
    | stopImu => rw [(stopImu_cases h).1]
    | _ => cases h; rfl

theorem signal_kept {s u : State D P} {e : Σ i, Act D P i}
    (h : (process D P parameters).next e s = some u) (hstop : s.shared.stopRequested = true) :
    u.shared.stopRequested = true := by
  obtain ⟨i, a⟩ := e
  obtain ⟨s', l', hst, rfl⟩ := Threads.next_eq_some h
  cases i with
  | main =>
    change mainStep parameters a s.shared (s.locals .main) = some (s', l') at hst
    cases hops : (s.locals .main : List MainOp) with
    | nil => rw [hops] at hst; cases hst
    | cons op rest =>
      rw [hops] at hst
      exact (exec_signal (Option.ite_none_right_eq_some.mp hst).2).trans hstop
  | camera =>
    obtain ⟨-, hst⟩ := Option.ite_none_right_eq_some.mp hst
    obtain ⟨t, ht, hx⟩ := Option.map_eq_some_iff.mp hst
    cases hx
    exact (cameraStep_signal ht).trans hstop
  | imu =>
    obtain ⟨-, hst⟩ := Option.ite_none_right_eq_some.mp hst
    obtain ⟨t, ht, hx⟩ := Option.map_eq_some_iff.mp hst
    cases hx
    exact (imuStep_signal ht).trans hstop
  | signals =>
    obtain ⟨-, hst⟩ := Option.ite_none_right_eq_some.mp hst
    cases hst
    rfl

/-! ### Who can go on -/

def isPlain : (Σ i, Act D P i) → Bool
  | ⟨.main, a⟩ =>
    match (a : MainAct) with
    | .step => true
    | .throws _ => false
  | ⟨.camera, e⟩ => Camera.isPlain (e : Σ i : Camera.Thread D, Camera.Act i)
  | ⟨.imu, e⟩ => Imu.isPlain (e : Σ i, Imu.Act P i)
  | ⟨.signals, _⟩ => false

theorem camera_goes_on {site : Camera.CleanupSite} (hok : ProcessOk parameters s)
    (hcall : Camera.inCall site s.cameraCall = true) :
    (∃ op, s.cameraCall = [op] ∧ op.isReturn = true ∧ op.exit site = true) ∨
      ∃ e t, Camera.isPlain e = true ∧ s.cameraInside e = true ∧ s.cameraStep parameters e = some t := by
  cases hops : s.cameraCall with
  | nil =>
    rw [hops] at hcall
    cases hcall
  | cons op rest =>
    rw [hops] at hcall
    cases hreturn : op.isReturn with
    | true =>
      have hbody : op.body site = false := by cases op <;> first | rfl | cases hreturn
      obtain rfl := block_end hcall hbody
      exact .inl ⟨op, rfl, hreturn, hcall⟩
    | false =>
      have hbusy : ¬ Camera.AtRest s.camera := fun hrest =>
        List.cons_ne_nil _ _ (hops.symm.trans hrest.owner)
      obtain ⟨e, u, hplain, hu⟩ := Camera.moves hok.camera hbusy
      refine .inr ⟨e, _, hplain, ?_, by rw [Process.cameraStep, hu]; rfl⟩
      rw [Process.cameraInside, hops]
      cases op <;> first | exact Bool.or_true _ | cases hreturn

theorem imu_goes_on {site : Imu.StopSite} (hok : ProcessOk parameters s)
    (hcall : Imu.inCall site s.imuCall = true) :
    (∃ op, s.imuCall = [op] ∧ op.isReturn = true ∧ op.exit site = true) ∨
      ∃ e t, Imu.isPlain e = true ∧ s.imuInside e = true ∧ s.imuStep parameters e = some t ∧
        0 < Imu.cost s.imu e := by
  cases hops : s.imuCall with
  | nil =>
    rw [hops] at hcall
    cases hcall
  | cons op rest =>
    rw [hops] at hcall
    cases hreturn : op.isReturn with
    | true =>
      have hbody : op.body = false := by cases op <;> first | rfl | cases hreturn
      obtain rfl := block_end hcall hbody
      exact .inl ⟨op, rfl, hreturn, hcall⟩
    | false =>
      have hbusy : ¬ Imu.AtRest s.imu := fun hrest =>
        List.cons_ne_nil _ _ (hops.symm.trans hrest.1)
      obtain ⟨e, u, hplain, hu, hcost⟩ := Imu.moves hok.imu hbusy
      refine .inr ⟨e, _, hplain, ?_, by rw [Process.imuStep, hu]; rfl, hcost⟩
      rw [Process.imuInside, hops]
      cases op <;> first | exact Bool.or_true _ | cases hreturn

/-- The main thread can go on, unless it waits for a call. -/
inductive MainMoves (parameters : Parameters) (s : Process D P) (op : MainOp) (rest : List MainOp) :
    Prop
  | step (h : (op.exec parameters s rest .step).isSome)
  | camera (site) (h : Camera.inCall site s.cameraCall = true)
      (hreturn : ∀ op', s.cameraCall = [op'] → op'.exit site = true → op'.isReturn = true →
        (op.exec parameters s rest .step).isSome)
  | imu (site) (h : Imu.inCall site s.imuCall = true)
      (hreturn : ∀ op', s.imuCall = [op'] → op'.exit site = true → op'.isReturn = true →
        (op.exec parameters s rest .step).isSome)

omit [Fintype D] [DecidableEq D] in
theorem imu_enters (parameters : Parameters) {a : Imu.OwnerAct} (hidle : At s .imuIdle)
    (hlive : At s .imuLive)
    (ha : ∀ c : Imu.Core P, (Imu.ownerStep a c ⟨[], false⟩).isSome) :
    ∃ t, s.imuStep parameters ⟨.owner, a⟩ = some t := by
  have hlocal : (s.imu.locals .owner : Imu.OwnerLocal) = ⟨[], false⟩ :=
    congrArg₂ Imu.OwnerLocal.mk hidle hlive
  have hstep : (Imu.ownerStep a s.imu.shared (s.imu.locals .owner)).isSome := by
    rw [hlocal]
    exact ha s.imu.shared
  obtain ⟨u, hu⟩ := Imu.next_isSome (t := parameters.publishTemperature) (i := .owner) hstep
  exact ⟨_, by rw [Process.imuStep, hu]; rfl⟩

omit [Fintype D] [DecidableEq D] in
theorem imu_returns (parameters : Parameters) {op : Imu.OwnerOp} (hcall : s.imuCall = [op])
    (hop : op.isReturn = true) :
    ∃ t, s.imuStep parameters ⟨.owner, .reply .done⟩ = some t := by
  have hexec : (op.exec s.imu.shared [] .done).isSome := by
    cases op <;> first | rfl | cases hop
  have hstep := Imu.ownerStep_isSome hcall hexec
  obtain ⟨u, hu⟩ := Imu.next_isSome (t := parameters.publishTemperature) (i := .owner) hstep
  exact ⟨_, by rw [Process.imuStep, hu]; rfl⟩

omit [Inhabited P] in
theorem camera_owner (parameters : Parameters) {a : Camera.OwnerAct}
    (h : (Camera.ownerStep a s.camera.shared (s.camera.locals .owner)).isSome) :
    ∃ t, s.cameraStep parameters ⟨.owner, a⟩ = some t := by
  obtain ⟨r, hr⟩ := Option.isSome_iff_exists.mp h
  have hnext : ∃ u, (Camera.threads D parameters.publishCameraInfo).next ⟨.owner, a⟩ s.camera =
      some u := ⟨_, Option.map_eq_some_iff.mpr ⟨r, hr, rfl⟩⟩
  obtain ⟨u, hu⟩ := hnext
  exact ⟨_, by rw [Process.cameraStep, hu]; rfl⟩

omit [Inhabited P] in
theorem camera_enters (parameters : Parameters) {a : Camera.OwnerAct} (hidle : At s .cameraIdle)
    (ha : ∀ (c : Camera.Core D) detached, (Camera.ownerStep a c ⟨[], detached⟩).isSome) :
    ∃ t, s.cameraStep parameters ⟨.owner, a⟩ = some t := by
  refine camera_owner parameters ?_
  have hlocal : (s.camera.locals .owner : Camera.OwnerLocal) =
      ⟨[], (s.camera.locals .owner : Camera.OwnerLocal).detached⟩ :=
    congrArg₂ Camera.OwnerLocal.mk hidle rfl
  rw [hlocal]
  exact ha _ _

omit [Inhabited P] in
theorem camera_returns (parameters : Parameters) {op : Camera.OwnerOp} (hcall : s.cameraCall = [op])
    (hop : op.isReturn = true) :
    ∃ t, s.cameraStep parameters ⟨.owner, .step⟩ = some t := by
  refine camera_owner parameters ?_
  have hlocal : (s.camera.locals .owner : Camera.OwnerLocal) =
      ⟨[op], (s.camera.locals .owner : Camera.OwnerLocal).detached⟩ :=
    congrArg₂ Camera.OwnerLocal.mk hcall rfl
  rw [hlocal]
  cases op <;> first | rfl | cases hop

theorem main_moves {op : MainOp} {rest : List MainOp} (hr : Ready s (op :: rest)) :
    MainMoves parameters s op rest := by
  cases op with
  | startImu =>
    obtain ⟨-, hidle, hlive⟩ : At s .cameraIdle ∧ At s .imuIdle ∧ At s .imuLive := by
      simpa [unoccupied] using hr.places.1
    obtain ⟨t, ht⟩ := imu_enters parameters (a := .start parameters.imu true true) hidle hlive fun _ => rfl
    exact .step (by rw [MainOp.exec, ht]; rfl)
  | stopImuCore =>
    obtain ⟨hidle, hlive⟩ : At s .imuIdle ∧ At s .imuLive := by simpa using hr.places.1
    obtain ⟨t, ht⟩ := imu_enters parameters (a := .stop) hidle hlive fun _ => rfl
    exact .step (by rw [MainOp.exec, ht]; rfl)
  | destroyImuCore =>
    obtain ⟨hidle, hlive⟩ : At s .imuIdle ∧ At s .imuLive := by simpa using hr.places.1
    obtain ⟨t, ht⟩ := imu_enters parameters (a := .destruct) hidle hlive fun _ => rfl
    cases hpublisher : s.imuPublisher with
    | none => exact .step (by simp only [MainOp.exec, hpublisher]; rfl)
    | some started => exact .step (by simp only [MainOp.exec, hpublisher, ht]; rfl)
  | startCamera =>
    obtain ⟨hidle, -⟩ : At s .cameraIdle ∧ At s .imuIdle ∧ At s .imuLive := by
      simpa [unoccupied] using hr.places.1
    obtain ⟨t, ht⟩ := camera_enters parameters (a := .start parameters.camera true true) hidle fun _ _ => rfl
    exact .step (by rw [MainOp.exec, ht]; rfl)
  | cleanupCamera =>
    have hidle : At s .cameraIdle := by simpa using hr.places.1
    obtain ⟨t, ht⟩ := camera_enters parameters (a := .cleanup) hidle fun _ _ => rfl
    exact .step (by rw [MainOp.exec, ht]; rfl)
  | startImuReturn =>
    obtain ⟨-, -, hcall⟩ : At s .cameraIdle ∧ At s .imuLive ∧ At s .imuStarting := by
      simpa using hr.places.1
    -- the main thread waits until the call has come to its return
    refine .imu .startFailure hcall fun op' hops hexit hreturn => ?_
    obtain ⟨t, ht⟩ := imu_returns parameters hops hreturn
    cases op' with
    | returnStart result => simp only [MainOp.exec, hops, ht, Option.map_some, Option.isSome_some]
    | returnStop => cases hexit
    | _ => cases hreturn
  | stopImuCoreReturn =>
    obtain ⟨hcall, -⟩ : At s .imuStopping ∧ At s .imuLive := by simpa using hr.places.1
    refine .imu .stop hcall fun op' hops hexit hreturn => ?_
    obtain ⟨t, ht⟩ := imu_returns parameters hops hreturn
    cases op' with
    | returnStop result => simp only [MainOp.exec, hops, ht, Option.map_some, Option.isSome_some]
    | returnStart => cases hexit
    | _ => cases hreturn
  | destroyImuCoreReturn =>
    have hplace : At s .imuDestroying := by simpa using hr.places.1
    cases hpublisher : s.imuPublisher with
    | none => exact .step (by simp only [MainOp.exec, hpublisher]; rfl)
    | some started =>
      refine .imu .stop (hplace.resolve_left (by simp [hpublisher])) fun op' hops hexit hreturn => ?_
      obtain ⟨t, ht⟩ := imu_returns parameters hops hreturn
      cases op' with
      | returnStop result =>
        simp only [MainOp.exec, hpublisher, hops, ht, Option.map_some, Option.isSome_some]
      | returnStart => cases hexit
      | _ => cases hreturn
  | startCameraReturn =>
    obtain ⟨hcall, -⟩ : At s .cameraStarting ∧ At s .imuIdle ∧ At s .imuLive := by
      simpa using hr.places.1
    refine .camera .start hcall fun op' hops hexit hreturn => ?_
    obtain ⟨t, ht⟩ := camera_returns parameters hops hreturn
    cases op' with
    | returnStart result => simp only [MainOp.exec, hops, ht, Option.map_some, Option.isSome_some]
    | returnCleanup => cases hexit
    | _ => cases hreturn
  | cleanupCameraReturn =>
    have hcall : At s .cameraCleaning := by simpa using hr.places.1
    refine .camera .cleanup hcall fun op' hops hexit hreturn => ?_
    obtain ⟨t, ht⟩ := camera_returns parameters hops hreturn
    cases op' with
    | returnCleanup result => simp only [MainOp.exec, hops, ht, Option.map_some, Option.isSome_some]
    | returnStart => cases hexit
    | _ => cases hreturn
  | stopCamera =>
    cases hpublisher : s.cameraPublisher with
    | none => exact .step (by simp only [MainOp.exec, hpublisher]; rfl)
    | some started =>
      cases hskip : !started && !s.camera.shared.failed <;>
        exact .step (by simp only [MainOp.exec, hpublisher, hskip]; rfl)
  | stopImu =>
    cases hpublisher : s.imuPublisher with
    | none => exact .step (by simp only [MainOp.exec, hpublisher]; rfl)
    | some started =>
      cases hskip : !started && !s.imu.shared.failed <;>
        exact .step (by simp only [MainOp.exec, hpublisher, hskip]; rfl)
  | _ => exact .step rfl

/-! ### The process ends -/

theorem camera_advances {s : State D P} {e : Σ i : Camera.Thread D, Camera.Act i}
    {t : Process D P} (hend : s.shared.ending = none) (hinside : s.shared.cameraInside e = true)
    (h : s.shared.cameraStep parameters e = some t) :
    ∃ u, (process D P parameters).next ⟨.camera, e⟩ s = some u := by
  refine ⟨⟨t, Function.update s.locals .camera ()⟩, Option.map_eq_some_iff.mpr ⟨(t, ()), ?_, rfl⟩⟩
  show (if s.shared.ending = none ∧ s.shared.cameraInside e = true then _ else none) = some _
  rw [if_pos ⟨hend, hinside⟩, h]
  rfl

theorem imu_advances {s : State D P} {e : Σ i, Imu.Act P i} {t : Process D P}
    (hend : s.shared.ending = none) (hinside : s.shared.imuInside e = true)
    (h : s.shared.imuStep parameters e = some t) :
    ∃ u, (process D P parameters).next ⟨.imu, e⟩ s = some u := by
  refine ⟨⟨t, Function.update s.locals .imu ()⟩, Option.map_eq_some_iff.mpr ⟨(t, ()), ?_, rfl⟩⟩
  show (if s.shared.ending = none ∧ s.shared.imuInside e = true then _ else none) = some _
  rw [if_pos ⟨hend, hinside⟩, h]
  rfl

theorem main_advances {s : State D P} {op : MainOp} {rest : List MainOp}
    (hend : s.shared.ending = none) (hops : (s.locals .main : List MainOp) = op :: rest)
    (h : (op.exec parameters s.shared rest .step).isSome) :
    ∃ u, (process D P parameters).next ⟨.main, .step⟩ s = some u := by
  obtain ⟨⟨t, ops⟩, hx⟩ := Option.isSome_iff_exists.mp h
  refine ⟨⟨t, Function.update s.locals .main ops⟩, Option.map_eq_some_iff.mpr ⟨(t, ops), ?_, rfl⟩⟩
  show mainStep parameters .step s.shared (s.locals .main) = some (t, ops)
  rw [hops, mainStep, if_pos hend, hx]

theorem process_moves {s : State D P} (hs : (process D P parameters).Reachable s)
    (hend : s.shared.ending = none) :
    ∃ e u, isPlain e = true ∧ (process D P parameters).next e s = some u ∧ 0 < cost s e := by
  have hok := reachable_process hs
  have hready := reachable_ready hs
  cases hops : (s.locals .main : List MainOp) with
  | nil =>
    have hblock := hready.ends hend
    rw [hops] at hblock
    cases hblock
  | cons op rest =>
    rw [hops] at hready
    have hmain : (op.exec parameters s.shared rest .step).isSome →
        ∃ e u, isPlain e = true ∧ (process D P parameters).next e s = some u ∧ 0 < cost s e := by
      intro h
      obtain ⟨u, hu⟩ := main_advances hend hops h
      exact ⟨⟨.main, .step⟩, u, rfl, hu, Nat.one_pos⟩
    cases main_moves hready with
    | step h => exact hmain h
    | camera site hcall hreturn =>
      obtain ⟨op', hcall', hop, hexit⟩ | ⟨e, t, hplain, hinside, ht⟩ := camera_goes_on hok hcall
      · exact hmain (hreturn op' hcall' hexit hop)
      · obtain ⟨u, hu⟩ := camera_advances hend hinside ht
        have hcost : Camera.cost e = 1 := (Camera.isPlain_paid hplain).1
        exact ⟨⟨.camera, e⟩, u, hplain, hu, Nat.lt_of_lt_of_eq Nat.one_pos hcost.symm⟩
    | imu site hcall hreturn =>
      obtain ⟨op', hcall', hop, hexit⟩ | ⟨e, t, hplain, hinside, ht, hcost⟩ := imu_goes_on hok hcall
      · exact hmain (hreturn op' hcall' hexit hop)
      · obtain ⟨u, hu⟩ := imu_advances hend hinside ht
        exact ⟨⟨.imu, e⟩, u, hplain, hu, hcost⟩

omit [Fintype D] [DecidableEq D] [Inhabited P] in
theorem isPlain_callback {e : Σ i, Act D P i} (h : isPlain e = true) :
    isCameraCallback e = false ∧ isImuCallback e = false := by
  obtain ⟨i, e⟩ := e
  cases i with
  | main => exact ⟨rfl, rfl⟩
  | signals => exact ⟨rfl, rfl⟩
  | camera =>
    obtain ⟨j, a⟩ := e
    cases j with
    | owner => exact ⟨rfl, rfl⟩
    | worker c => exact ⟨rfl, rfl⟩
    | dispatcher d => cases (a : Camera.CallbackAct) <;> first | exact ⟨rfl, rfl⟩ | cases h
  | imu =>
    obtain ⟨j, a⟩ := e
    cases j with
    | owner => exact ⟨rfl, rfl⟩
    | publisher => exact ⟨rfl, rfl⟩
    | producer => cases (a : Imu.ProducerAct P) <;> first | exact ⟨rfl, rfl⟩ | cases h

/-- The end of a process that was asked to stop: some thread can always go on, the steps that
count bring the process to its end, and no run can take more of them than there is work left,
but for what callbacks bring in. -/
structure Ends (parameters : Parameters) (s : State D P) : Prop where
  moves : s.shared.ending = none →
    ∃ e u, isPlain e = true ∧ (process D P parameters).next e s = some u ∧ 0 < cost s e
  attains : ∃ es u, (∀ e ∈ es, isPlain e = true) ∧
    (process D P parameters).toSystem.run es s = some u ∧ u.shared.ending ≠ none ∧
      es.length ≤ left s
  bounded : ∀ es u, (process D P parameters).toSystem.run es s = some u →
    (process D P parameters).toSystem.spent cost es s ≤
      left s + (118 * es.countP isCameraCallback + 34 * es.countP isImuCallback)

/-- A process that is asked to stop ends, wherever its threads are at that moment. -/
theorem process_ends {s : State D P} (hs : (process D P parameters).Reachable s)
    (hstop : s.shared.stopRequested = true) : Ends parameters s where
  moves := process_moves hs
  attains := System.attains (M := (process D P parameters).toSystem) left cost
    (fun _ e => 118 * (if isCameraCallback e then 1 else 0) +
      34 * (if isImuCallback e then 1 else 0))
    (I := fun s => (process D P parameters).Reachable s ∧ s.shared.stopRequested = true)
    (fun s => s.shared.ending ≠ none) (fun e => isPlain e = true)
    (fun _ _ _ hI h => ⟨hI.1.next h, signal_kept h hI.2⟩)
    (fun _ _ _ hI h => step_paid hI.1 hI.2 h)
    (fun s hI hgoal => by
      obtain ⟨e, u, hplain, hu, hcost⟩ := process_moves hI.1 (not_not.mp hgoal)
      obtain ⟨hcamera, himu⟩ := isPlain_callback hplain
      exact ⟨e, u, hplain, hu, hcost, by rw [hcamera, himu]; rfl⟩) ⟨hs, hstop⟩
  bounded es u h := by
    have hpaid := System.spent_le (M := (process D P parameters).toSystem) left cost
      (fun _ e => 118 * (if isCameraCallback e then 1 else 0) +
        34 * (if isImuCallback e then 1 else 0))
      (I := fun s => (process D P parameters).Reachable s ∧ s.shared.stopRequested = true)
      (fun _ _ _ hI h => ⟨hI.1.next h, signal_kept h hI.2⟩)
      (fun _ _ _ hI h => step_paid hI.1 hI.2 h) ⟨hs, hstop⟩ h
    rw [System.spent_add, System.spent_countP _ _ h, System.spent_countP _ _ h] at hpaid
    exact (Nat.le_add_left _ _).trans hpaid

end Process

/-! ### A run -/

def signalledRun : List (Σ i, Act Unit Unit i) :=
  mainDoes 3 ++
  imuDoes (Imu.ownerDoes [.reply .done, .reply (.created Imu.statusOk (some 7)),
    .reply (.status Imu.statusOk), .reply .done, .reply (.spawned true), .reply .done,
    .reply (.status Imu.statusOk)]) ++
  mainDoes 3 ++
  imuDoes (Imu.producerDoes
    [.callback (some ⟨Imu.sampleStructSize, 5, ()⟩) 11, .step, .step, .step, .step, .step,
      .callback (some ⟨Imu.sampleStructSize, 6, ()⟩) 12, .step]) ++
  [⟨.signals, ()⟩]

def signalledEnd : State Unit Unit :=
  ((process Unit Unit imuOnly).toSystem.run signalledRun
    (process Unit Unit imuOnly).toSystem.start).get rfl

theorem process_ends_signalled :
    signalledEnd.shared.ending = none ∧ Ends imuOnly signalledEnd :=
  ⟨rfl, process_ends (System.reachable_get _) rfl⟩

end RoboBaton.Node
