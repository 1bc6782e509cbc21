import RoboBaton.Camera.Frame

/-! `FrameQueue`. A section of its mutex is one step; a caller that waits on a condition
variable is a caller whose step is not enabled yet. -/

namespace RoboBaton.Camera

structure FrameQueue where
  capacity : Nat
  dropNewest : Bool
  queue : List RetainedFrameJob
  stopped : Bool
  deriving DecidableEq, Repr

/-- Why `Push` returned, seen from the history of the queue. -/
inductive Outcome
  | admitted
  | full
  | stopped
  deriving DecidableEq, Repr

inductive PushResult
  | pushed (queue : FrameQueue)
  | rejected (outcome : Outcome)
  | blocked
  deriving DecidableEq, Repr

inductive PopResult
  | popped (job : RetainedFrameJob) (queue : FrameQueue)
  | stopped
  | blocked
  deriving DecidableEq, Repr

namespace FrameQueue

def new (capacity : Nat) (dropNewest : Bool) : FrameQueue := ⟨capacity, dropNewest, [], false⟩

def push (q : FrameQueue) (job : RetainedFrameJob) : PushResult :=
  if q.stopped then .rejected .stopped
  else if q.dropNewest && q.queue.length ≥ q.capacity then .rejected .full
  else if q.queue.length < q.capacity then .pushed { q with queue := q.queue ++ [job] }
  else .blocked

def pop (q : FrameQueue) : PopResult :=
  if q.stopped then .stopped
  else
    match q.queue with
    | [] => .blocked
    | job :: queue => .popped job { q with queue }

def closeAdmission (q : FrameQueue) : FrameQueue := { q with stopped := true }

/-- `StopAndDetach`; what it detaches is `q.queue`. -/
def stopAndDetach (q : FrameQueue) : FrameQueue := { q with queue := [], stopped := true }

variable {q q' : FrameQueue} {job : RetainedFrameJob}

theorem push_eq_pushed : q.push job = .pushed q' ↔
    q.stopped = false ∧ q.queue.length < q.capacity ∧
      q' = { q with queue := q.queue ++ [job] } := by
  unfold push
  split
  · rename_i h
    simp [h]
  · rename_i h
    split
    · rename_i hfull
      simp only [reduceCtorEq, false_iff, not_and]
      intro _ hlt
      simp at hfull
      omega
    · split
      · rename_i hlt
        simp [h, hlt, eq_comm]
      · rename_i hge
        simp [hge]

theorem push_eq_rejected {o : Outcome} : q.push job = .rejected o ↔
    (q.stopped = true ∧ o = .stopped) ∨
      (q.stopped = false ∧ q.dropNewest = true ∧ q.capacity ≤ q.queue.length ∧ o = .full) := by
  unfold push
  split
  · rename_i h
    rw [PushResult.rejected.injEq, eq_comm]
    simp [h]
  · rename_i h
    split
    · rename_i hfull
      simp at hfull
      rw [PushResult.rejected.injEq, eq_comm]
      simp [h, hfull]
    · rename_i hroom
      have hne : ¬ (q.dropNewest = true ∧ q.capacity ≤ q.queue.length) := by simpa using hroom
      split <;> simp [h] <;> tauto

theorem pop_eq_popped : q.pop = .popped job q' ↔
    q.stopped = false ∧ ∃ rest, q.queue = job :: rest ∧ q' = { q with queue := rest } := by
  unfold pop
  split
  · rename_i h
    simp only [h, reduceCtorEq, Bool.true_eq_false, false_and]
  · rename_i h
    split
    · rename_i hq
      simp only [hq, reduceCtorEq, false_and, exists_false, and_false]
    · rename_i j rest hq
      simp only [PopResult.popped.injEq, hq, List.cons.injEq, h, true_and]
      constructor
      · rintro ⟨rfl, rfl⟩
        exact ⟨rest, ⟨rfl, rfl⟩, rfl⟩
      · rintro ⟨_, ⟨rfl, rfl⟩, rfl⟩
        exact ⟨rfl, rfl⟩

end FrameQueue
end RoboBaton.Camera
