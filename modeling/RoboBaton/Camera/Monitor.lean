import RoboBaton.Camera.Queue
import RoboBaton.Library.Monitor

/-! `FrameQueue` down to its mutex and its two condition variables: one thread pushes, one
pops, and any number of threads close the queue. What the callers see of the data is what
the atomic `FrameQueue` does. -/

namespace RoboBaton.Camera
open Transition Monitor

inductive Party (D : Type)
  | pusher
  | popper
  | closer (d : D)
  deriving DecidableEq

inductive Cond
  | notFull
  | notEmpty
  deriving DecidableEq, Repr

inductive Closing
  | closeAdmission
  | stopAndDetach
  deriving DecidableEq, Repr

/-- What the last call returned; `threw` is a `push_back` that found no memory. -/
inductive Returned
  | nothing
  | pushed (ok : Bool)
  | threw
  | popped (output : Option RetainedFrameJob)
  | closed
  | detached (jobs : List RetainedFrameJob)
  deriving DecidableEq, Repr

namespace FrameQueue

abbrev Program := Code FrameQueue Cond Returned

def awaited : Cond → FrameQueue → Bool
  | .notFull, q => q.stopped || q.queue.length < q.capacity
  | .notEmpty, q => q.stopped || !q.queue.isEmpty

def pushProgram (job : RetainedFrameJob) : Program :=
  .lock <| .read fun q =>
    if q.stopped then .unlock <| .done (.pushed false)
    else if q.dropNewest && q.queue.length ≥ q.capacity then .unlock <| .done (.pushed false)
    else .wait .testing .notFull (awaited .notFull) <| .read fun q =>
      if q.stopped then .unlock <| .done (.pushed false)
      else .allocate
        (.write (fun q => { q with queue := q.queue ++ [job] }) fun _ =>
          .unlock <| .notifyOne .notEmpty <| .done (.pushed true))
        (.unlock <| .done .threw)

def popProgram : Program :=
  .lock <| .wait .testing .notEmpty (awaited .notEmpty) <| .read fun q =>
    if q.stopped || q.queue.isEmpty then .unlock <| .done (.popped none)
    else .write (fun q => { q with queue := q.queue.tail }) fun q =>
      .unlock <| .notifyOne .notFull <| .done (.popped q.queue.head?)

def closeAdmissionProgram : Program :=
  .lock <| .write closeAdmission fun _ =>
    .unlock <| .notifyAll .notEmpty <| .notifyAll .notFull <| .done .closed

def stopAndDetachProgram : Program :=
  .lock <| .write stopAndDetach fun q =>
    .unlock <| .notifyAll .notEmpty <| .notifyAll .notFull <| .done (.detached q.queue)

end FrameQueue

section Threads
variable {D : Type}

def Party.Call : Party D → Type
  | .pusher => RetainedFrameJob
  | .popper => Unit
  | .closer _ => Closing

def Party.program : ∀ i : Party D, i.Call → FrameQueue.Program
  | .pusher, job => FrameQueue.pushProgram job
  | .popper, () => FrameQueue.popProgram
  | .closer _, .closeAdmission => FrameQueue.closeAdmissionProgram
  | .closer _, .stopAndDetach => FrameQueue.stopAndDetachProgram

variable (D) in
def queueThreads [DecidableEq D] (capacity : Nat) (dropNewest : Bool) :
    Threads (Party D) (Shared FrameQueue (Party D) Cond) (fun _ => FrameQueue.Program)
      fun i => Monitor.Act (Party D) i.Call :=
  Monitor.threads (.new capacity dropNewest) .nothing Party.Call Party.program

variable (D) in
abbrev QueueState := Monitor.State FrameQueue (Party D) Cond Returned

/-! ### The discipline of the four methods -/

/-- What a party does to the queue is what the atomic queue would do. -/
def Party.Writes : Party D → FrameQueue → FrameQueue → Prop
  | .pusher, q, q' => ∃ job, q.push job = .pushed q'
  | .popper, q, q' => ∃ job, q.pop = .popped job q'
  | .closer _, q, q' => q' = q.closeAdmission ∨ q' = q.stopAndDetach

variable (D) in
def queueScheme (capacity : Nat) : Scheme FrameQueue (Party D) Cond where
  holds q := q.capacity = capacity ∧ q.queue.length ≤ q.capacity
  writes := Party.Writes
  awaited := FrameQueue.awaited
  waiter
    | .notFull => .pusher
    | .notEmpty => .popper

variable {capacity : Nat}

theorem sound_unlock {i : Party D} (q : FrameQueue) (result : Returned) :
    (Code.unlock (.done result) : FrameQueue.Program).held = true ∧
      (queueScheme D capacity).Sound i q (.unlock (.done result)) := ⟨rfl, rfl, trivial⟩

theorem sound_push (job : RetainedFrameJob) (q : FrameQueue) :
    (queueScheme D capacity).Sound .pusher q (FrameQueue.pushProgram job) := by
  have hadd : ∀ q, (queueScheme D capacity).holds q → FrameQueue.awaited .notFull q = true →
      ¬ q.stopped = true → (queueScheme D capacity).Sound .pusher q
        (.write (fun q => { q with queue := q.queue ++ [job] }) fun _ =>
          .unlock <| .notifyOne .notEmpty <| .done (.pushed true) : FrameQueue.Program) := by
    intro q hq hroom hopen
    have hlt : q.queue.length < q.capacity := by simpa [FrameQueue.awaited, hopen] using hroom
    have hopen : q.stopped = false := by simpa using hopen
    refine ⟨rfl, ⟨⟨job, FrameQueue.push_eq_pushed.mpr ⟨hopen, hlt, rfl⟩⟩, hq.1, by simpa⟩, ?_,
      rfl, rfl, trivial⟩
    rintro (_ | _) -
    · exact .inl hroom
    · exact .inr (.inl rfl)
  refine ⟨rfl, fun q hq => Scheme.sound_ite (fun _ => sound_unlock q _) fun _ =>
    Scheme.sound_ite (fun _ => sound_unlock q _) fun _ => ⟨rfl, ⟨rfl, rfl⟩, rfl, nofun, ?_⟩⟩
  intro q hq hroom
  exact Scheme.sound_ite (fun _ => sound_unlock q _) fun hopen =>
    ⟨rfl, ⟨rfl, hadd q hq hroom hopen⟩, sound_unlock q _⟩

theorem sound_pop (q : FrameQueue) :
    (queueScheme D capacity).Sound .popper q FrameQueue.popProgram := by
  refine ⟨rfl, fun q hq => ⟨⟨rfl, rfl⟩, rfl, nofun, fun q hq _ => ?_⟩⟩
  refine Scheme.sound_ite (fun _ => sound_unlock q _) fun hready => ?_
  obtain ⟨hopen, hne⟩ : q.stopped = false ∧ q.queue ≠ [] := by simpa using hready
  obtain ⟨job, rest, hqueue⟩ := List.exists_cons_of_ne_nil hne
  refine ⟨rfl, rfl, ⟨⟨job, FrameQueue.pop_eq_popped.mpr ⟨hopen, rest, hqueue, ?_⟩⟩, hq.1, ?_⟩,
    ?_, rfl, rfl, trivial⟩
  · simp only [hqueue, List.tail_cons]
  · have hle := hq.2
    simp only [List.length_tail]
    omega
  · rintro (_ | _) -
    · exact .inr (.inl rfl)
    · have hready : FrameQueue.awaited .notEmpty q = true := by simp [FrameQueue.awaited, hne]
      exact .inl hready

theorem sound_closing {d : D} {f : FrameQueue → FrameQueue} {result : FrameQueue → Returned}
    (hwrites : ∀ q, Party.Writes (.closer d) q (f q))
    (hholds : ∀ q, (queueScheme D capacity).holds q → (queueScheme D capacity).holds (f q))
    (q : FrameQueue) :
    (queueScheme D capacity).Sound (.closer d) q
      (.lock <| .write f fun q =>
        .unlock <| .notifyAll .notEmpty <| .notifyAll .notFull <| .done (result q)) := by
  refine ⟨rfl, fun q hq => ⟨rfl, ⟨hwrites q, hholds q hq⟩, ?_, rfl, rfl, rfl, trivial⟩⟩
  rintro (_ | _) -
  · exact .inr (.inr (.inl rfl))
  · exact .inr (.inl rfl)

theorem sound_program (i : Party D) (op : i.Call) :
    (i.program op).held = false ∧ ∀ q, (queueScheme D capacity).holds q →
      (queueScheme D capacity).Sound i q (i.program op) := by
  cases i with
  | pusher => exact ⟨rfl, fun q _ => sound_push op q⟩
  | popper => exact ⟨rfl, fun q _ => sound_pop q⟩
  | closer d =>
    cases op with
    | closeAdmission =>
      exact ⟨rfl, fun q _ => sound_closing (fun _ => .inl rfl) (fun _ hq => hq) q⟩
    | stopAndDetach =>
      exact ⟨rfl, fun q _ =>
        sound_closing (fun _ => .inr rfl) (fun _ hq => ⟨hq.1, Nat.zero_le _⟩) q⟩

/-! ### Whole runs -/

variable [DecidableEq D] {dropNewest : Bool} {x : QueueState D}

theorem reachable_queue (h : (queueThreads D capacity dropNewest).Reachable x) :
    Ok (queueScheme D capacity) x :=
  reachable_ok ⟨rfl, Nat.zero_le _⟩ sound_program h

inductive QueueAct
  | push (job : RetainedFrameJob)
  | pop
  | closeAdmission
  | stopAndDetach

def atomicQueue (capacity : Nat) (dropNewest : Bool) : System FrameQueue QueueAct where
  start := .new capacity dropNewest
  next
    | .push job, q =>
      match q.push job with
      | .pushed q' => some q'
      | _ => none
    | .pop, q =>
      match q.pop with
      | .popped _ q' => some q'
      | _ => none
    | .closeAdmission, q => some q.closeAdmission
    | .stopAndDetach, q => some q.stopAndDetach

/-- The four methods, interleaved at their locks and notifications, take the queue only
through states of the atomic queue. -/
theorem monitor_refines (h : (queueThreads D capacity dropNewest).Reachable x) :
    (atomicQueue capacity dropNewest).Reachable x.shared.data := by
  refine reachable_data (R := queueScheme D capacity) rfl ?_ ⟨rfl, Nat.zero_le _⟩ sound_program h
  intro i q q' hwrites
  cases i with
  | pusher =>
    obtain ⟨job, hpush⟩ := hwrites
    exact ⟨.push job, by simp only [atomicQueue, hpush]⟩
  | popper =>
    obtain ⟨job, hpop⟩ := hwrites
    exact ⟨.pop, by simp only [atomicQueue, hpop]⟩
  | closer d =>
    obtain rfl | rfl := hwrites
    · exact ⟨.closeAdmission, rfl⟩
    · exact ⟨.stopAndDetach, rfl⟩

/-- `leaving`: a thread that owes a notification has left its critical section, or only has
to unlock the mutex. -/
structure WakesUp (capacity : Nat) (dropNewest : Bool) (x : QueueState D) : Prop where
  bounded : x.shared.data.queue.length ≤ capacity
  pusher : Parked x .pusher .notFull →
    x.shared.data.stopped = true ∨ x.shared.data.queue.length < capacity →
    Delivered x .pusher .notFull ∨ Owed x .notFull
  popper : Parked x .popper .notEmpty →
    x.shared.data.stopped = true ∨ x.shared.data.queue ≠ [] →
    Delivered x .popper .notEmpty ∨ Owed x .notEmpty
  leaving : ∀ c i, (x.locals i).owes c → x.shared.holder ≠ some i ∨ ∃ rest, x.locals i = .unlock rest
  notBoth : Parked x .pusher .notFull → Parked x .popper .notEmpty →
    (Delivered x .pusher .notFull ∨ Owed x .notFull) ∨
      Delivered x .popper .notEmpty ∨ Owed x .notEmpty
  closed : x.shared.data.stopped = true → (∀ c, ¬ Owed x c) → ∀ i c, Parked x i c →
    ∃ u, (queueThreads D capacity dropNewest).next ⟨i, .step⟩ x = some u ∧ ¬ Parked u i c

theorem no_lost_wakeup (hcapacity : 0 < capacity)
    (h : (queueThreads D capacity dropNewest).Reachable x) : WakesUp capacity dropNewest x := by
  have hok := reachable_queue h
  obtain ⟨hcap, hlength⟩ := hok.data
  rw [hcap] at hlength
  have hpusher : Parked x .pusher .notFull →
      x.shared.data.stopped = true ∨ x.shared.data.queue.length < capacity →
      Delivered x .pusher .notFull ∨ Owed x .notFull := fun hp hready =>
    hok.awaited hp (by simpa [queueScheme, FrameQueue.awaited, hcap] using hready)
  have hpopper : Parked x .popper .notEmpty →
      x.shared.data.stopped = true ∨ x.shared.data.queue ≠ [] →
      Delivered x .popper .notEmpty ∨ Owed x .notEmpty := fun hp hready =>
    hok.awaited hp (by simpa [queueScheme, FrameQueue.awaited] using hready)
  constructor
  case bounded => exact hlength
  case pusher => exact hpusher
  case popper => exact hpopper
  case leaving =>
    intro c i ho
    by_cases hi : x.shared.holder = some i
    · exact .inr (hok.leaving ho hi)
    · exact .inl hi
  case notBoth =>
    intro hfull hempty
    -- a queue of capacity at least one is not full and empty at once
    by_cases hroom : x.shared.data.queue.length < capacity
    · exact .inl (hpusher hfull (.inr hroom))
    · refine .inr (hpopper hempty (.inr fun hnil => hroom ?_))
      rw [hnil]
      exact hcapacity
  case closed =>
    intro hstopped hissued i c hp
    have hready : (queueScheme D capacity).awaited c x.shared.data = true := by
      cases c <;> simp [queueScheme, FrameQueue.awaited, hstopped]
    obtain hd | ho := hok.awaited hp hready
    · exact hd.wakes hp
    · exact absurd ho (hissued c)

end Threads

/-! ### A run -/

def partyDoes (i : Party Unit) (as : List (Monitor.Act (Party Unit) i.Call)) :
    List (Σ i : Party Unit, Monitor.Act (Party Unit) i.Call) := as.map fun a => ⟨i, a⟩

def sampleJob : RetainedFrameJob := ⟨some 7, .zero⟩

def fullQueueRun : List (Σ i : Party Unit, Monitor.Act (Party Unit) i.Call) :=
  partyDoes .pusher (.call sampleJob :: List.replicate 8 .step) ++
    partyDoes .pusher (.call sampleJob :: List.replicate 4 .step) ++
    partyDoes .popper (.call () :: List.replicate 4 .step)

def fullQueueEnd : QueueState Unit :=
  ((queueThreads Unit 1 false).toSystem.run fullQueueRun
    (queueThreads Unit 1 false).toSystem.start).get rfl

theorem no_lost_wakeup_full :
    Parked fullQueueEnd .pusher .notFull ∧ fullQueueEnd.shared.data.queue = [] ∧
      WakesUp 1 false fullQueueEnd :=
  ⟨⟨_, _, rfl⟩, rfl, no_lost_wakeup (by decide) (System.reachable_get _)⟩

/-- Before the popper unlocks the mutex, nobody outside a critical section owes the pusher
anything. -/
theorem asleep_until_unlock :
    ¬ ∀ x : QueueState Unit, (queueThreads Unit 1 false).Reachable x → Parked x .pusher .notFull →
      x.shared.data.stopped = true ∨ x.shared.data.queue.length < 1 →
      Delivered x .pusher .notFull ∨
        ∃ i, (x.locals i).owes .notFull ∧ x.shared.holder ≠ some i := by
  intro hclaim
  have hreached : (queueThreads Unit 1 false).Reachable fullQueueEnd := System.reachable_get _
  obtain hd | ⟨i, howes, hheld⟩ := hclaim _ hreached ⟨_, _, rfl⟩ (.inr (by decide))
  · exact hd (by decide)
  · cases i with
    | pusher => exact howes
    | popper => exact hheld rfl
    | closer d => exact howes

end RoboBaton.Camera
