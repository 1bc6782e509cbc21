import RoboBaton.Camera.Progress

/-! What the threads around the core can rely on. A callback that drops what does not fit waits
for nothing but the mutex of a queue, and after a failure or a stop nothing more gets in: each worker publishes at most the
frame that it has in its hands. -/

namespace RoboBaton.Camera
open Trace Discipline Transition
variable {D : Type} {s s' : Core D} {cameraInfo : Bool}

/-! ### A callback on its own -/

theorem queueWork_callback [DecidableEq D] {d : D} {l l' : Code CallbackPc}
    (h : CallbackStep d s l s' l') : queueWork s ≤ queueWork s' := by
  cases h with
  | common spurious op => exact (queueWork_common spurious s op).ge
  | pushed scan c job q q' hq hp =>
    obtain ⟨-, -, rfl⟩ := FrameQueue.push_eq_pushed.mp hp
    have hqueue := queueWork_setQueue (s.arrive c job .admitted q.queue.length) c
      { q with queue := q.queue ++ [job] }
    have hold : jobsOf ((s.arrive c job .admitted q.queue.length).queues c) = q.queue :=
      jobsOf_some hq
    have hsame : queueWork (s.arrive c job .admitted q.queue.length) = queueWork s := rfl
    rw [hold, hsame, List.length_append, Nat.mul_add] at hqueue
    omega
  | leave failed => cases failed <;> exact le_rfl
  | _ => exact le_rfl

theorem callback_own [DecidableEq D] {d : D} {a : CallbackAct} {l l' : Code CallbackPc}
    (hspares : ∀ c, Spares c l.pending) (h : frameSetTrampoline d a s l = some (s', l')) :
    callbackWork l' + a.cost ≤ callbackWork l + a.gain := by
  have hwork := callback_work hspares h
  have hqueue := queueWork_callback (frameSetTrampoline_step h)
  omega

theorem callback_enters [DecidableEq D] {d : D} {set : Option FrameSet} {l l' : Code CallbackPc}
    (h : frameSetTrampoline d (.callback set) s l = some (s', l')) : l = .of .idle := by
  obtain ⟨_ | ⟨op, ops⟩, pc⟩ := l
  · cases pc with
    | idle => rfl
    | checkHeader set' => cases set' <;> cases h
    | push scan c job =>
      obtain ⟨q, -, h⟩ := Option.bind_eq_some_iff.mp h
      cases h
    | _ => cases h
  · cases h

theorem FrameQueue.push_newest {q : FrameQueue} {job : RetainedFrameJob}
    (h : q.dropNewest = true) : q.push job ≠ .blocked := by
  unfold push
  split
  · simp
  · rw [h, Bool.true_and]
    split
    · simp
    · rename_i hroom
      rw [if_pos (by simpa using hroom)]
      simp

/-- What happens on the thread `d` of libsc132, as long as nothing outside the core throws. -/
def goesOn (d : D) (e : Σ i : Thread D, Act i) : Prop := e.1 = .dispatcher d ∧ isPlain e = true

instance [DecidableEq D] (d : D) : DecidablePred (goesOn d) := fun _ =>
  inferInstanceAs (Decidable (_ ∧ _))

def callbackCost [DecidableEq D] (d : D) : (Σ i : Thread D, Act i) → ℕ
  | ⟨.dispatcher d', a⟩ => if d' = d then CallbackAct.cost a else 0
  | _ => 0

def callbackGain [DecidableEq D] (d : D) : (Σ i : Thread D, Act i) → ℕ
  | ⟨.dispatcher d', a⟩ => if d' = d then CallbackAct.gain a else 0
  | _ => 0

def isStepOf [DecidableEq D] (d : D) (e : Σ i : Thread D, Act i) : Bool := callbackCost d e == 1

def isCallbackOf [DecidableEq D] (d : D) : (Σ i : Thread D, Act i) → Bool
  | ⟨.dispatcher d', .callback _⟩ => decide (d' = d)
  | _ => false

def callbackLeft (d : D) (s : State D) : ℕ := callbackWork (s.locals (.dispatcher d) : Code _)

section Reached
variable [Fintype D] [DecidableEq D]

theorem callbackLeft_step {s t : State D} (hs : (threads D cameraInfo).Reachable s) (d : D)
    {e : Σ i : Thread D, Act i} (h : (threads D cameraInfo).next e s = some t) :
    callbackLeft d t + callbackCost d e ≤ callbackLeft d s + callbackGain d e := by
  obtain ⟨i, a⟩ := e
  obtain ⟨c, l, hst, rfl⟩ := Threads.next_eq_some h
  by_cases hi : i = .dispatcher d
  · subst hi
    have hown := callback_own (reachable_maxOk hs (.dispatcher d)) hst
    simpa [callbackLeft, callbackCost, callbackGain] using hown
  · have hlocal : Function.update s.locals i l (.dispatcher d) = s.locals (.dispatcher d) :=
      Function.update_of_ne (Ne.symm hi) ..
    have hsame : callbackLeft d ⟨c, Function.update s.locals i l⟩ = callbackLeft d s :=
      congrArg (threadWork (.dispatcher d)) hlocal
    have hcost : callbackCost d ⟨i, a⟩ = 0 := by
      cases i with
      | dispatcher d' => exact if_neg fun hd : d' = d => hi (by rw [hd])
      | _ => rfl
    rw [hsame, hcost]
    exact Nat.le_add_right _ _

theorem callbackLeft_le {s : State D} (hs : (threads D cameraInfo).Reachable s) (d : D) :
    callbackLeft d s ≤ 118 := by
  refine System.Reachable.invariant (M := (threads D cameraInfo).toSystem)
    (P := fun s => callbackLeft d s ≤ 118) (Nat.zero_le _) ?_ hs
  rintro s e t hs ih hn
  have hstep := callbackLeft_step hs d hn
  by_cases hgain : callbackGain d e = 0
  · omega
  · -- a callback begins on an idle thread
    obtain ⟨i, a⟩ := e
    cases i with
    | dispatcher d' =>
      obtain rfl : d' = d := by
        by_contra hd
        exact hgain (if_neg hd)
      obtain ⟨c, l, hst, rfl⟩ := Threads.next_eq_some hn
      cases a with
      | callback set =>
        have hidle : callbackLeft d' s = 0 := by
          rw [callbackLeft, callback_enters hst]
          rfl
        have hone : callbackGain d' ⟨.dispatcher d', .callback set⟩ = 118 := if_pos rfl
        omega
      | _ => exact absurd (ite_self 0) hgain
    | _ => exact absurd rfl hgain

theorem newest_moves {s : State D} (hs : (threads D cameraInfo).Reachable s)
    (hnewest : s.shared.config.dropNewest = true) {d : D}
    (hbusy : (s.locals (.dispatcher d) : Code CallbackPc) ≠ .of .idle) :
    ∃ e t, goesOn d e ∧ (threads D cameraInfo).next e s = some t := by
  rcases callback_moves d s.shared (s.locals (.dispatcher d)) with
    ⟨a, hplain, hsome⟩ | hidle | ⟨scan, c, job, hl, hblocked⟩
  · obtain ⟨r, hr⟩ := Option.isSome_iff_exists.mp hsome
    have hstep : (threads D cameraInfo).step (.dispatcher d) a s.shared
        (s.locals (.dispatcher d)) = some r := hr
    exact ⟨⟨.dispatcher d, a⟩, _, ⟨rfl, hplain⟩, by rw [Threads.next, hstep]; rfl⟩
  · exact absurd hidle hbusy
  · obtain ⟨q, hq⟩ := push_queue hs hl
    have hq' : q.dropNewest = true := ((reachable_routed hs).1 c q hq).dropNewest.trans hnewest
    exact absurd (hblocked q hq) (q.push_newest hq')

/-- The callback on `d` waits for no other thread but to get the mutex of a queue, which each method
of the queue holds for one step: it can always go on, and alone it is over soon; whatever the
others do meanwhile, it takes a bounded number of steps. -/
structure Prompt (cameraInfo : Bool) (d : D) (s : State D) : Prop where
  moves : (s.locals (.dispatcher d) : Code CallbackPc) ≠ .of .idle →
    ∃ e t, goesOn d e ∧ (threads D cameraInfo).next e s = some t
  alone : ∃ as t, (∀ e ∈ as, goesOn d e) ∧ (threads D cameraInfo).toSystem.run as s = some t ∧
    (t.locals (.dispatcher d) : Code CallbackPc) = .of .idle ∧ as.length ≤ 118
  bounded : ∀ as t, (threads D cameraInfo).toSystem.run as s = some t →
    as.countP (isStepOf d) ≤ 118 * (1 + as.countP (isCallbackOf d))

/-- With `drop_newest` a thread of libsc132 never waits for a subscriber, for room in a queue or for
`Cleanup` to get on. -/
theorem callbacks_prompt {s : State D} (hs : (threads D cameraInfo).Reachable s)
    (hnewest : s.shared.config.dropNewest = true) (d : D) : Prompt cameraInfo d s where
  moves := newest_moves hs hnewest
  alone := by
    -- the system in which only this callback goes on has a measure that each step lowers
    have hsteps := System.attains (M := (threads D cameraInfo).toSystem.only (goesOn d))
      (callbackLeft d) (fun _ => callbackCost d) (fun _ => callbackGain d)
      (I := fun s => (threads D cameraInfo).Reachable s ∧ s.shared.config.dropNewest = true)
      (fun s => (s.locals (.dispatcher d) : Code CallbackPc) = .of .idle) (fun _ => True)
      ?_ ?_ ?_ ⟨hs, hnewest⟩
    · obtain ⟨as, t, -, hrun, hidle, hlength⟩ := hsteps
      obtain ⟨hkinds, hrun⟩ := System.run_of_only hrun
      exact ⟨as, t, hkinds, hrun, hidle, hlength.trans (callbackLeft_le hs d)⟩
    · rintro s ⟨i, a⟩ t ⟨hs, hnewest⟩ hn
      obtain ⟨⟨rfl, -⟩, hn⟩ := System.only_eq_some.mp hn
      refine ⟨hs.next hn, ?_⟩
      obtain ⟨c, l, hst, rfl⟩ := Threads.next_eq_some hn
      rw [(callback_holding (frameSetTrampoline_step hst)).config]
      exact hnewest
    · rintro s e t ⟨hs, -⟩ hn
      exact callbackLeft_step hs d (System.only_eq_some.mp hn).2
    · rintro s ⟨hs, hnewest⟩ hbusy
      obtain ⟨e, t, hgoes, ht⟩ := newest_moves hs hnewest hbusy
      obtain ⟨hcost, hgain⟩ := isPlain_paid hgoes.2
      refine ⟨e, t, trivial, System.only_eq_some.mpr ⟨hgoes, ht⟩, ?_⟩
      obtain ⟨i, a⟩ := e
      obtain rfl : i = .dispatcher d := hgoes.1
      rw [show callbackCost d ⟨.dispatcher d, a⟩ = CallbackAct.cost a from if_pos rfl,
        show callbackGain d ⟨.dispatcher d, a⟩ = CallbackAct.gain a from if_pos rfl]
      exact ⟨by rw [show CallbackAct.cost a = 1 from hcost]; exact Nat.one_pos, hgain⟩
  bounded as t hrun := by
    have hpaid := System.Reachable.spent_le (M := (threads D cameraInfo).toSystem)
      (callbackLeft d) (fun _ => callbackCost d) (fun _ => callbackGain d)
      (fun _ _ _ hs hn => callbackLeft_step hs d hn) hs hrun
    have hleft := callbackLeft_le hs d
    have hcost : (callbackCost d : (Σ i : Thread D, Act i) → ℕ) =
        fun e => 1 * if isStepOf d e then 1 else 0 := by
      funext ⟨i, a⟩
      cases i with
      | dispatcher d' =>
        by_cases hd : d' = d <;>
          cases (a : CallbackAct) <;> simp [isStepOf, callbackCost, CallbackAct.cost, hd]
      | _ => rfl
    have hgain : (callbackGain d : (Σ i : Thread D, Act i) → ℕ) =
        fun e => 118 * if isCallbackOf d e then 1 else 0 := by
      funext ⟨i, a⟩
      cases i with
      | dispatcher d' =>
        by_cases hd : d' = d <;>
          cases (a : CallbackAct) <;> simp [isCallbackOf, callbackGain, CallbackAct.gain, hd]
      | _ => rfl
    rw [hcost, hgain, System.spent_countP _ _ hrun, System.spent_countP _ _ hrun] at hpaid
    omega

/-! ### After a failure or a stop -/

end Reached

/-- A failure has been handled, or libsc132 has been told to stop. -/
def Shut (s : Core D) : Prop :=
  (.callbackFailed ∈ s.events ∨ ∃ c, .workerFailed c ∈ s.events) ∨ .stop ∈ s.events

theorem Shut.onward (h : Shut s) (hevents : s.events <+: s'.events) : Shut s' := by
  rcases h with (h | ⟨c, h⟩) | h
  · exact .inl (.inl (hevents.subset h))
  · exact .inl (.inr ⟨c, hevents.subset h⟩)
  · exact .inr (hevents.subset h)

theorem Shut.closed (h : Shut s) (hL : Ledger s) :
    s.accepting = false ∧ ∀ c q, s.queues c = some q → q.stopped = true := by
  have hclosed : s.admissionClosed = true ∧ ∀ c q, s.queues c = some q → q.stopped = true := by
    rcases h with h | h
    · obtain ⟨-, hdone⟩ := hL.handled h
      refine ⟨hdone .storeAccepting ?_, fun c => hdone (.closeQueue c) ?_⟩ <;>
        simp [failureOps, closeAdmissionAndRequestStop, cameras]
    · obtain ⟨-, hfacts⟩ := hL.stop h
      refine ⟨hfacts (.done .storeAccepting) ?_, fun c q hq => ?_⟩
      · simp [Camera.closed]
      · exact (hfacts (.emptied c) (by simp [Camera.closed, cameras]) q hq).1
  refine ⟨?_, hclosed.2⟩
  by_contra haccepting
  have hopen := (hL.accepting (Bool.eq_true_of_not_eq_false haccepting)).2
  exact absurd (hopen.symm.trans hclosed.1) (by simp)

structure Shuts (s s' : Core D) : Prop where
  popped : s'.popped = s.popped
  arrivals : ∀ c, ∃ late, s'.arrivals c = s.arrivals c ++ late ∧ ∀ a ∈ late, a.outcome = .stopped

theorem Shuts.of_eq (hpopped : s'.popped = s.popped) (harrivals : s'.arrivals = s.arrivals) :
    Shuts s s' :=
  ⟨hpopped, fun c => ⟨[], by rw [harrivals, List.append_nil], by simp⟩⟩

theorem Shuts.trans {s'' : Core D} (h : Shuts s s') (h' : Shuts s' s'') : Shuts s s'' := by
  refine ⟨h'.popped.trans h.popped, fun c => ?_⟩
  obtain ⟨late, hlate, hstopped⟩ := h.arrivals c
  obtain ⟨later, hlater, hstopped'⟩ := h'.arrivals c
  refine ⟨late ++ later, by rw [hlater, hlate, List.append_assoc], fun a ha => ?_⟩
  exact (List.mem_append.mp ha).elim (hstopped a) (hstopped' a)

def CallbackPc.entering : CallbackPc → ℕ
  | .checkHeader _ => 1
  | _ => 0

def WorkerPc.holding : WorkerPc → ℕ
  | .callSink _ => 1
  | .publishImage _ => 1
  | _ => 0

def entering : ∀ i : Thread D, Local i → ℕ
  | .dispatcher _, (l : Code CallbackPc) => l.pc.entering
  | _, _ => 0

def publishes (c : CameraId) : (Σ i : Thread D, Act i) → Bool
  | ⟨.worker c', .returns _⟩ => decide (c' = c)
  | _ => false

theorem common_shuts (spurious : Bool) (s : Core D) (op : CommonOp) :
    Shuts s (op.exec spurious s).1 ∧ (op.exec spurious s).1.sets = s.sets := by
  cases op <;> exact ⟨.of_eq rfl rfl, rfl⟩

theorem owner_shuts [Fintype D] {op : OwnerOp} {detached : List RetainedFrameJob}
    {rest : List OwnerOp} {a : OwnerAct} {l : OwnerLocal}
    (h : op.exec s detached rest a = some (s', l)) : Shuts s s' ∧ s'.sets = s.sets := by
  cases exec_step h with
  | common op => exact common_shuts false s op
  | _ => exact ⟨.of_eq rfl rfl, rfl⟩

theorem callback_shuts [DecidableEq D] {d : D} {l l' : Code CallbackPc}
    (hclosed : s.accepting = false ∧ ∀ c q, s.queues c = some q → q.stopped = true)
    (h : CallbackStep d s l s' l') :
    Shuts s s' ∧ s'.sets.length + l'.pc.entering ≤ s.sets.length + l.pc.entering := by
  cases h with
  | common spurious op ops pc =>
    obtain ⟨hshuts, hsets⟩ := common_shuts spurious s op
    exact ⟨hshuts, by rw [hsets]⟩
  | accepted set hopen => exact absurd (hclosed.1.symm.trans hopen) (by simp)
  | header set => exact ⟨.of_eq rfl rfl, by simp [Code.of, CallbackPc.entering]⟩
  | pushed scan c job q q' hq hp =>
    have hlive := (FrameQueue.push_eq_pushed.mp hp).1
    exact absurd ((hclosed.2 c q hq).symm.trans hlive) (by simp)
  | rejected scan c job q outcome hq hp =>
    have hstopped := hclosed.2 c q hq
    obtain ⟨-, rfl⟩ | ⟨hlive, -⟩ := FrameQueue.push_eq_rejected.mp hp
    · refine ⟨⟨rfl, fun c' => ?_⟩, le_rfl⟩
      by_cases hc : c' = c
      · subst hc
        exact ⟨[⟨job, .stopped, q.queue.length⟩], Function.update_self .., by simp⟩
      · exact ⟨[], (Function.update_of_ne hc ..).trans (List.append_nil _).symm, by simp⟩
    · exact absurd (hstopped.symm.trans hlive) (by simp)
  | leave failed => cases failed <;> exact ⟨.of_eq rfl rfl, le_rfl⟩
  | _ => exact ⟨.of_eq rfl rfl, Nat.add_le_add_left (Nat.zero_le _) _⟩

theorem worker_shuts {c : CameraId} {l l' : Code WorkerPc}
    (hclosed : ∀ c q, s.queues c = some q → q.stopped = true)
    (h : WorkerStep cameraInfo c s l s' l') :
    (Shuts s s' ∧ s'.sets = s.sets) ∧ l'.pc.holding ≤ l.pc.holding := by
  cases h with
  | common spurious op ops pc => exact ⟨common_shuts spurious s op, le_rfl⟩
  | popped q job q' hq hp =>
    obtain ⟨hlive, -⟩ := FrameQueue.pop_eq_popped.mp hp
    exact absurd ((hclosed c q hq).symm.trans hlive) (by simp)
  | finish failed => cases failed <;> exact ⟨⟨.of_eq rfl rfl, rfl⟩, le_rfl⟩
  | callSink job => exact ⟨⟨.of_eq rfl rfl, rfl⟩, le_rfl⟩
  | _ => exact ⟨⟨.of_eq rfl rfl, rfl⟩, Nat.zero_le _⟩

theorem worker_publishes {c : CameraId} {a : WorkerAct} {l l' : Code WorkerPc} {latencyNs : UInt64}
    (ha : a = .returns latencyNs) (h : workerLoop cameraInfo c a s l = some (s', l')) :
    l'.pc.holding + 1 ≤ l.pc.holding := by
  subst ha
  unfold workerLoop at h
  split at h
  · obtain ⟨_ | ⟨op, ops⟩, pc⟩ := l
    · cases pc with
      | publishImage job =>
        cases h
        exact le_rfl
      | _ => cases h
    · cases h
  · cases h

section Reached
variable [Fintype D] [DecidableEq D]

def setsLeft (s : State D) : ℕ := Threads.workOf (fun c : Core D => c.sets.length) entering s

theorem step_shuts {s t : State D} (hs : (threads D cameraInfo).Reachable s)
    (hshut : Shut s.shared) {e : Σ i : Thread D, Act i}
    (h : (threads D cameraInfo).next e s = some t) :
    Shut t.shared ∧ Shuts s.shared t.shared ∧ setsLeft t ≤ setsLeft s := by
  have hclosed := hshut.closed (reachable_core hs).1
  have hstep : Shuts s.shared t.shared ∧ setsLeft t + 0 ≤ setsLeft s + 0 := by
    obtain ⟨i, a⟩ := e
    obtain ⟨c, l, hst, rfl⟩ := Threads.next_eq_some h
    suffices hone : Shuts s.shared c ∧
        c.sets.length + entering i l ≤ s.shared.sets.length + entering i (s.locals i) by
      refine ⟨hone.1, Threads.workOf_step (fun s' l' hst' => ?_) h⟩
      obtain ⟨rfl, rfl⟩ := Prod.mk.inj (Option.some.inj (hst.symm.trans hst'))
      exact hone.2
    cases i with
    | owner =>
      rcases ownerStep_cases hst with ⟨rfl, -⟩ | ⟨op, rest, -, he⟩
      · exact ⟨.of_eq rfl rfl, le_rfl⟩
      · obtain ⟨hshuts, hsets⟩ := owner_shuts he
        exact ⟨hshuts, by rw [hsets]; exact le_rfl⟩
    | dispatcher d => exact callback_shuts hclosed (frameSetTrampoline_step hst)
    | worker c' =>
      obtain ⟨⟨hshuts, hsets⟩, -⟩ := worker_shuts hclosed.2 (workerLoop_step hst).2
      exact ⟨hshuts, by rw [hsets]; exact le_rfl⟩
  obtain ⟨i, a⟩ := e
  obtain ⟨c, l, hst, rfl⟩ := Threads.next_eq_some h
  exact ⟨hshut.onward (threads_events hst), hstep⟩

def holding (c : CameraId) (s : State D) : ℕ := (s.locals (.worker c) : Code WorkerPc).pc.holding

theorem step_holding {s t : State D} (hs : (threads D cameraInfo).Reachable s)
    (hshut : Shut s.shared) (c : CameraId) {e : Σ i : Thread D, Act i}
    (h : (threads D cameraInfo).next e s = some t) :
    holding c t + (if publishes c e then 1 else 0) ≤ holding c s := by
  have hclosed := hshut.closed (reachable_core hs).1
  obtain ⟨i, a⟩ := e
  obtain ⟨u, l, hst, rfl⟩ := Threads.next_eq_some h
  by_cases hi : i = .worker c
  · subst hi
    have hlocal : holding c ⟨u, Function.update s.locals (.worker c) l⟩ =
        (l : Code WorkerPc).pc.holding := by
      unfold holding
      exact congrArg (fun l : Code WorkerPc => l.pc.holding) (Function.update_self ..)
    rw [hlocal]
    cases a with
    | returns latencyNs =>
      have hpublishes : publishes (D := D) c ⟨.worker c, .returns latencyNs⟩ = true :=
        decide_eq_true rfl
      rw [hpublishes]
      exact worker_publishes rfl hst
    | _ => exact (worker_shuts hclosed.2 (workerLoop_step hst).2).2
  · -- no other thread takes a job out of the hands of the worker
    have hlocal : Function.update s.locals i l (.worker c) = s.locals (.worker c) :=
      Function.update_of_ne (Ne.symm hi) ..
    have hsame : holding c ⟨u, Function.update s.locals i l⟩ = holding c s :=
      congrArg (fun l : Code WorkerPc => l.pc.holding) hlocal
    have hother : publishes c ⟨i, a⟩ = false := by
      cases i with
      | worker c' =>
        cases a with
        | returns => exact decide_eq_false fun hc : c' = c => hi (by rw [hc])
        | _ => rfl
      | _ => rfl
    rw [hsame, hother]
    exact le_rfl

structure GoesQuiet (s t : State D) (as : List (Σ i : Thread D, Act i)) : Prop where
  shuts : Shuts s.shared t.shared
  /-- A new callback goes no further than its first check. -/
  accepting : t.shared.accepting = false
  /-- A frame set that still passes the header check is that of a callback let in before. -/
  sets : t.shared.sets.length ≤ s.shared.sets.length + ∑ i, entering i (s.locals i)
  published : ∀ c, as.countP (publishes c) ≤ holding c s

/-- After a handled failure or `sc132_stop`, the core goes quiet in every run. -/
theorem goes_quiet {s t : State D} (hs : (threads D cameraInfo).Reachable s) (hshut : Shut s.shared)
    {as : List (Σ i : Thread D, Act i)}
    (h : (threads D cameraInfo).toSystem.run as s = some t) : GoesQuiet s t as := by
  have hlasts := System.run_stable (M := (threads D cameraInfo).toSystem)
    (P := fun u => Shut u.shared ∧ Shuts s.shared u.shared ∧ setsLeft u ≤ setsLeft s)
    (fun e _ u v hu hP hn => by
      obtain ⟨hshut', hshuts, hleft⟩ := step_shuts hu hP.1 hn
      exact ⟨hshut', hP.2.1.trans hshuts, hleft.trans hP.2.2⟩)
    hs ⟨hshut, .of_eq rfl rfl, le_rfl⟩ h
  obtain ⟨hstays, hshuts, hleft⟩ := hlasts
  have hclosed := hstays.closed (reachable_core ((System.later_of_run h).reachable hs)).1
  refine ⟨hshuts, hclosed.1, (Nat.le_add_right _ _).trans hleft, fun c => ?_⟩
  have hpaid := System.spent_le (M := (threads D cameraInfo).toSystem) (holding c)
    (fun _ e => 1 * if publishes c e then 1 else 0) (fun _ _ => 0)
    (I := fun u => (threads D cameraInfo).Reachable u ∧ Shut u.shared)
    (fun u e v hu hn => ⟨hu.1.next hn, (step_shuts hu.1 hu.2 hn).1⟩)
    (fun u e v hu hn => by
      have hstep := step_holding hu.1 hu.2 c hn
      omega) ⟨hs, hshut⟩ h
  rw [System.spent_countP _ _ h, System.spent_const _ h] at hpaid
  simp only [List.map_const', List.sum_replicate, smul_zero] at hpaid
  omega

end Reached

/-! ### Runs -/

def crowdedRun : List (Σ i : Thread Unit, Act i) :=
  startRun { CameraCoreConfig.default with queueCapacity := 1, dropNewest := true } ++
    queueFrame 7 ++ dispatcherDoes () [.callback (some (sampleSet 8)), .step, .step,
      .info statusOk sampleInfo 9, .retained statusOk]

def crowdedEnd : State Unit :=
  ((threads Unit false).toSystem.run crowdedRun (threads Unit false).toSystem.start).get rfl

theorem callbacks_prompt_crowded :
    (∃ scan job, (crowdedEnd.locals (.dispatcher ()) : Code CallbackPc) = .of (.push scan 0 job)) ∧
    (crowdedEnd.shared.queues 0).map (fun q => q.queue.length) = some 1 ∧ Prompt false () crowdedEnd :=
  ⟨⟨_, _, rfl⟩, by decide, callbacks_prompt (System.reachable_get _) rfl ()⟩

def shutRun : List (Σ i : Thread Unit, Act i) :=
  startRun .default ++ queueFrame 7 ++ queueFrame 8 ++ workerDoes 0 [.step] ++
    dispatcherDoes () (.callback none :: List.replicate 13 .step)

def shutEnd : State Unit :=
  ((threads Unit false).toSystem.run shutRun (threads Unit false).toSystem.start).get rfl

def lastSteps : List (Σ i : Thread Unit, Act i) :=
  workerDoes 0 [.step, .returns 3, .step, .step, .step, .step]

def lastEnd : State Unit := ((threads Unit false).toSystem.run lastSteps shutEnd).get rfl

theorem goes_quiet_failed : lastSteps.countP (publishes 0) = holding 0 shutEnd ∧
    lastEnd.shared.workers 0 = .finished ∧ GoesQuiet shutEnd lastEnd lastSteps :=
  ⟨by decide, by decide, goes_quiet (System.reachable_get _) (.inl (.inl (by decide)))
    (Option.some_get _).symm⟩

end RoboBaton.Camera
