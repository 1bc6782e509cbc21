import Mathlib.Data.List.Induction
import RoboBaton.Nv12.Encoder

/-! The order in which the codec may be called, and that the encoder keeps to it whatever the
calls return. -/

namespace RoboBaton.Nv12
open Camera Throwing

inductive Phase
  | off
  | ready
  | running
  | paused
  deriving DecidableEq, Repr

def Call.allowed (p : Phase) : Call → Bool
  | .mcInitialize _ => p == .off
  | .mcConfigure _ => p == .ready
  | .mcStart _ => p == .ready
  | .mcDequeueInputBuffer => p == .running
  | .mcQueueInputBuffer _ => p == .running
  | .mcDequeueOutputBuffer => p == .running
  | .mcQueueOutputBuffer => p == .running
  | .mcPause => p == .running
  | .mcRelease => p == .ready || p == .paused

/-- The phase after a call: only a successful initialisation or start takes effect. -/
@[simp] def Phase.after (p : Phase) (status : Int32) : Call → Phase
  | .mcInitialize _ => if status = 0 then .ready else p
  | .mcConfigure _ => p
  | .mcStart _ => if status = 0 then .running else p
  | .mcDequeueInputBuffer => p
  | .mcQueueInputBuffer _ => p
  | .mcDequeueOutputBuffer => p
  | .mcQueueOutputBuffer => p
  | .mcPause => .paused
  | .mcRelease => .off

def Phase.next (p : Phase) (r : CallResult) : Option Phase :=
  if r.call.allowed p then some (p.after r.status r.call) else none

def phaseAfter (calls : List CallResult) : Option Phase := calls.foldlM Phase.next .off

theorem phaseAfter_append_singleton (calls : List CallResult) (r : CallResult) :
    phaseAfter (calls ++ [r]) = (phaseAfter calls).bind fun p => p.next r := by
  rw [phaseAfter, List.foldlM_append]
  show (phaseAfter calls).bind (fun p => [r].foldlM Phase.next p) = _
  congr 1
  funext p
  cases h : p.next r <;> simp [List.foldlM, h]

def CallResult.initialized (r : CallResult) : Bool :=
  match r.call with
  | .mcInitialize _ => r.status == 0
  | _ => false

def CallResult.started (r : CallResult) : Bool :=
  match r.call with
  | .mcStart _ => r.status == 0
  | _ => false

def CallResult.isCall (c : Call) (r : CallResult) : Bool := r.call == c

theorem phaseAfter_counts {calls : List CallResult} {p : Phase} (h : phaseAfter calls = some p) :
    calls.countP CallResult.initialized =
        calls.countP (CallResult.isCall .mcRelease) + (if p = .off then 0 else 1) ∧
      calls.countP CallResult.started =
        calls.countP (CallResult.isCall .mcPause) + (if p = .running then 1 else 0) := by
  induction calls using List.reverseRecOn generalizing p with
  | nil =>
    obtain rfl := Option.some.inj h
    exact ⟨rfl, rfl⟩
  | append_singleton calls r ih =>
    rw [phaseAfter_append_singleton] at h
    obtain ⟨q, hq, hn⟩ := Option.bind_eq_some_iff.mp h
    obtain ⟨hinit, hstart⟩ := ih hq
    rw [Phase.next, Option.ite_none_right_eq_some] at hn
    obtain ⟨hallowed, hp⟩ := hn
    obtain rfl := Option.some.inj hp
    simp only [List.countP_append, List.countP_singleton, hinit, hstart]
    obtain ⟨c, status⟩ := r
    cases c <;> cases q <;>
      simp_all [Call.allowed, CallResult.initialized, CallResult.started, CallResult.isCall] <;>
      (split <;> simp_all)

def dequeues (calls : List CallResult) : Nat :=
  calls.countP (CallResult.isCall .mcDequeueInputBuffer)

/-! ### One call -/

structure Now (p : Phase) (n : Nat) (K : Encoder → Prop) (s : Session) : Prop where
  phase : phaseAfter s.calls = some p
  dequeued : dequeues s.calls = n
  encoder : K s.encoder

def Flags (p : Phase) (e : Encoder) : Prop :=
  e.initialized = decide (p ≠ .off) ∧ e.started = decide (p = .running)

def Steady (n : Nat) (s : Session) : Prop := ∃ p, p ≠ .paused ∧ Now p n (Flags p) s

section
variable {hb : Codec} {p : Phase} {n : Nat} {K K' : Encoder → Prop}
  {E : Error → Session → Prop}

theorem triple_call {c : Call} (hc : c.allowed p = true) :
    Triple (Now p n K) (call hb c) (fun reply =>
      Now (p.after reply.status c) (n + if c = .mcDequeueInputBuffer then 1 else 0) K) E := by
  rintro s ⟨hphase, hn, hK⟩
  refine ⟨?_, ?_, hK⟩
  · show phaseAfter (s.calls ++ [_]) = _
    rw [phaseAfter_append_singleton, hphase]
    exact if_pos hc
  · show dequeues (s.calls ++ [_]) = _
    rw [dequeues, List.countP_append, List.countP_singleton, ← hn]
    simp [CallResult.isCall, dequeues]

theorem triple_checkedCall {c : Call} {operation : String} (hc : c.allowed p = true)
    (hfail : ∀ status, status ≠ 0 → p.after status c = p) :
    Triple (Now p n K) (checkedCall hb c operation)
      (fun _ => Now (p.after 0 c) (n + if c = .mcDequeueInputBuffer then 1 else 0) K)
      (fun _ => Now p (n + if c = .mcDequeueInputBuffer then 1 else 0) K) := by
  apply (triple_call hc).bind
  intro reply
  refine Triple.bind (R := fun _ s => reply.status = 0 ∧
    Now (p.after reply.status c) (n + if c = .mcDequeueInputBuffer then 1 else 0) K s) ?_ ?_
  · apply Triple.ite
    · intro hstatus
      apply triple_throw
      intro s hs
      rwa [hfail reply.status hstatus] at hs
    · intro hstatus
      apply triple_pure
      exact fun s hs => ⟨not_not.mp hstatus, hs⟩
  · rintro ⟨⟩
    apply triple_pure
    rintro s ⟨hstatus, hs⟩
    rwa [hstatus] at hs

theorem triple_setEncoder {f : Encoder → Encoder} (h : ∀ e, K e → K' (f e)) :
    Triple (Now p n K) (setEncoder f) (fun _ => Now p n K') E := by
  apply triple_modify
  exact fun s hs => ⟨hs.phase, hs.dequeued, h s.encoder hs.encoder⟩

/-! ### The methods of the encoder -/

def Stopped (n : Nat) (s : Session) : Prop :=
  ∃ p, p ≠ .running ∧ Now p n (fun e => e.initialized = decide (p ≠ .off) ∧ e.started = false) s

theorem triple_pauseStarted :
    Triple (Steady n) (pauseStarted hb) (fun _ => Stopped n) E := by
  apply Triple.bind (R := fun s t => s = t ∧ Steady n t)
  · exact triple_get fun s hs => ⟨rfl, hs⟩
  intro s
  apply Triple.ite
  · intro hstarted
    have hcall : Triple (fun t => s = t ∧ Steady n t) (call hb .mcPause)
        (fun _ => Now .paused n fun e => e.initialized = true) E := by
      rintro _ ⟨rfl, p, hp, hs⟩
      obtain rfl : p = .running := of_decide_eq_true (hs.encoder.2.symm.trans hstarted)
      exact triple_call (c := .mcPause) rfl s ⟨hs.phase, hs.dequeued, hs.encoder.1⟩
    apply hcall.bind
    intro _
    have hset : Triple (Now .paused n fun e => e.initialized = true)
        (setEncoder fun e => { e with started := false })
        (fun _ => Now .paused n fun e => e.initialized = true ∧ e.started = false) E :=
      triple_setEncoder fun e he => ⟨he, rfl⟩
    exact hset.post (fun _ t ht => ⟨.paused, by decide, ht⟩) fun _ _ h => h
  · intro hstarted
    apply triple_pure
    rintro _ ⟨rfl, p, hp, hs⟩
    have hfalse : s.encoder.started = false := Bool.eq_false_iff.mpr hstarted
    refine ⟨p, ?_, hs.phase, hs.dequeued, hs.encoder.1, hfalse⟩
    exact of_decide_eq_false (hs.encoder.2.symm.trans hfalse)

theorem triple_releaseInitialized :
    Triple (Stopped n) (releaseInitialized hb) (fun _ => Now .off n (Flags .off)) E := by
  apply Triple.bind (R := fun s t => s = t ∧ Stopped n t)
  · exact triple_get fun s hs => ⟨rfl, hs⟩
  intro s
  apply Triple.ite
  · intro hinitialized
    have hcall : Triple (fun t => s = t ∧ Stopped n t) (call hb .mcRelease)
        (fun _ => Now .off n fun e => e.started = false) E := by
      rintro _ ⟨rfl, p, hp, hs⟩
      have hoff : p ≠ .off := of_decide_eq_true (hs.encoder.1.symm.trans hinitialized)
      have hallowed : Call.allowed p .mcRelease = true := by
        rcases p with _ | _ | _ | _ <;> first | rfl | contradiction
      exact triple_call hallowed s ⟨hs.phase, hs.dequeued, hs.encoder.2⟩
    apply hcall.bind
    intro _
    exact triple_setEncoder fun e he => ⟨rfl, he⟩
  · intro hinitialized
    apply triple_pure
    rintro _ ⟨rfl, p, hp, hs⟩
    have hfalse : s.encoder.initialized = false := Bool.eq_false_iff.mpr hinitialized
    obtain rfl : p = .off := not_not.mp (of_decide_eq_false (hs.encoder.1.symm.trans hfalse))
    exact ⟨hs.phase, hs.dequeued, hs.encoder⟩

theorem triple_reset : Triple (Steady n) (reset hb) (fun _ => Now .off n (Flags .off)) E := by
  apply triple_pauseStarted.bind
  intro _
  apply triple_releaseInitialized.bind
  intro _
  exact triple_setEncoder fun e he => he

theorem triple_openContext {width height : Int32} :
    Triple (Steady n) (openContext hb width height) (fun _ => Now .running n (Flags .running))
      (fun _ => Steady n) := by
  apply triple_reset.bind
  intro _
  apply Triple.ite
  · intro _
    apply triple_throw
    exact fun s hs => ⟨.off, by decide, hs⟩
  intro _
  apply Triple.bind (R := fun _ => Now .off n (Flags .off))
  · exact triple_get fun s hs => hs
  intro s
  apply Triple.bind (R := fun _ => Now .off n (Flags .off))
  · exact triple_setEncoder fun e he => he
  intro _
  apply Triple.bind (R := fun _ => Now .ready n (Flags .off))
  · refine (triple_checkedCall rfl ?_).post (fun _ _ h => h) ?_
    · exact fun status h => if_neg h
    · exact fun _ t ht => ⟨.off, by decide, ht⟩
  intro _
  apply Triple.bind (R := fun _ => Now .ready n (Flags .ready))
  · exact triple_setEncoder fun e he => ⟨rfl, he.2⟩
  intro _
  apply Triple.bind (R := fun _ => Now .ready n (Flags .ready))
  · refine (triple_checkedCall rfl fun status _ => rfl).post (fun _ _ h => h) ?_
    exact fun _ t ht => ⟨.ready, by decide, ht⟩
  intro _
  apply Triple.bind (R := fun _ => Now .running n (Flags .ready))
  · refine (triple_checkedCall rfl ?_).post (fun _ _ h => h) ?_
    · exact fun status h => if_neg h
    · exact fun _ t ht => ⟨.ready, by decide, ht⟩
  intro _
  exact triple_setEncoder fun e he => ⟨he.1, rfl⟩

theorem triple_ensureContext {width height : Int32} :
    Triple (Steady n) (ensureContext hb width height)
      (fun _ => Now .running n (Flags .running)) (fun _ => Steady n) := by
  apply Triple.bind (R := fun s t => s = t ∧ Steady n t)
  · exact triple_get fun s hs => ⟨rfl, hs⟩
  intro s
  apply Triple.ite
  · rintro ⟨hstarted, -, -⟩
    apply triple_pure
    rintro _ ⟨rfl, p, hp, hs⟩
    obtain rfl : p = .running := of_decide_eq_true (hs.encoder.2.symm.trans hstarted)
    exact hs
  · intro _
    exact triple_openContext.pre fun t ht => ht.2

/-- A transfer dequeues at most once and leaves the context running. -/
theorem triple_transfer {planes : Nv12Planes} {data : List UInt8} :
    Triple (Now .running n K) (transfer hb planes data) (fun _ => Now .running (n + 1) K)
      (fun _ => Now .running (n + 1) K) := by
  have hlift : ∀ {α : Type} (r : Except Error α), Triple (Now .running (n + 1) K)
      (MonadExcept.ofExcept r : EncoderM α) (fun _ => Now .running (n + 1) K)
      (fun _ => Now .running (n + 1) K) := fun r =>
    triple_liftExcept (fun _ _ _ h => h) fun _ _ _ h => h
  apply (triple_checkedCall rfl fun status _ => rfl).bind
  intro dequeued
  apply (hlift _).bind
  intro input
  apply (triple_checkedCall rfl fun status _ => rfl).bind
  intro _
  apply (triple_checkedCall rfl fun status _ => rfl).bind
  intro encoded
  apply (hlift _).bind
  intro jpegSize
  apply (triple_checkedCall rfl fun status _ => rfl).bind
  intro _
  exact triple_pure fun s hs => hs

/-- `Encode` leaves no context behind when it fails after its attempt to dequeue. -/
theorem triple_encode {image : Image} : Triple (Steady n) (encode hb image)
    (fun _ s => Steady (dequeues s.calls) s)
    (fun _ s => Steady (dequeues s.calls) s ∧
      (n < dequeues s.calls → s.encoder.started = false ∧ s.encoder.initialized = false)) := by
  have hquiet : ∀ s, Steady n s → Steady (dequeues s.calls) s ∧
      (n < dequeues s.calls → s.encoder.started = false ∧ s.encoder.initialized = false) := by
    rintro s ⟨p, hp, hs⟩
    rw [hs.dequeued]
    exact ⟨⟨p, hp, hs⟩, fun h => absurd h (lt_irrefl n)⟩
  apply Triple.bind (R := fun _ => Steady n)
  · exact triple_liftExcept (fun _ _ s hs => hs) fun _ _ s hs => hquiet s hs
  intro planes
  apply Triple.bind (R := fun _ => Now .running n (Flags .running))
  · exact triple_ensureContext.post (fun _ _ h => h) fun _ s hs => hquiet s hs
  intro _
  apply Triple.tryCatch
  · refine triple_transfer.post ?_ fun _ _ h => h
    intro _ s hs
    rw [hs.dequeued]
    exact ⟨.running, by decide, hs⟩
  · intro e
    apply Triple.bind (R := fun _ => Now .off (n + 1) (Flags .off))
    · exact triple_reset.pre fun s hs => ⟨.running, by decide, hs⟩
    · intro _
      apply triple_throw
      intro s hs
      rw [hs.dequeued]
      exact ⟨⟨.off, by decide, hs⟩, fun _ => ⟨hs.encoder.2, hs.encoder.1⟩⟩

theorem steady_encodeAll (hb : Codec) (images : List Image) {s : Session}
    (hs : Steady (dequeues s.calls) s) :
    Steady (dequeues (encodeAll hb images s).calls) (encodeAll hb images s) := by
  induction images generalizing s with
  | nil => exact hs
  | cons image images ih =>
    apply ih
    have hend : Triple (Steady (dequeues s.calls)) (encode hb image)
        (fun _ t => Steady (dequeues t.calls) t) (fun _ t => Steady (dequeues t.calls) t) :=
      triple_encode.post (fun _ _ h => h) fun _ _ h => h.1
    exact hend.final hs

end

/-- What holds of every sequence of `Encode` calls on one encoder and its destruction. -/
structure CodecProtocol (hb : Codec) (jpegQuality : Int32) (images : List Image) : Prop where
  allowed : phaseAfter (destroy hb (encodeAll hb images (.fresh jpegQuality))).calls = some .off
  released : (destroy hb (encodeAll hb images (.fresh jpegQuality))).calls.countP
      CallResult.initialized =
    (destroy hb (encodeAll hb images (.fresh jpegQuality))).calls.countP
      (CallResult.isCall .mcRelease)
  paused : (destroy hb (encodeAll hb images (.fresh jpegQuality))).calls.countP
      CallResult.started =
    (destroy hb (encodeAll hb images (.fresh jpegQuality))).calls.countP
      (CallResult.isCall .mcPause)
  failed : ∀ image e s,
    encode hb image (encodeAll hb images (.fresh jpegQuality)) = .error e s →
    dequeues (encodeAll hb images (.fresh jpegQuality)).calls < dequeues s.calls →
    s.encoder.started = false ∧ s.encoder.initialized = false
  rejected : ∀ image e, validateAndLocatePlanes image = .error e →
    encode hb image (encodeAll hb images (.fresh jpegQuality)) =
      .error e (encodeAll hb images (.fresh jpegQuality))

theorem codec_protocol (hb : Codec) (jpegQuality : Int32) (images : List Image) :
    CodecProtocol hb jpegQuality images := by
  have hfresh : Steady (dequeues (Session.fresh jpegQuality).calls) (.fresh jpegQuality) :=
    ⟨.off, by decide, rfl, rfl, rfl, rfl⟩
  have hsteady := steady_encodeAll hb images hfresh
  have hoff : phaseAfter (destroy hb (encodeAll hb images (.fresh jpegQuality))).calls =
      some .off :=
    (triple_reset.post (fun _ _ h => h.phase) fun _ _ h => h).final hsteady
  obtain ⟨hreleased, hpaused⟩ := phaseAfter_counts hoff
  refine ⟨hoff, hreleased, hpaused, ?_, ?_⟩
  · intro image e s he hlt
    have hend : Ends _ _ (encode hb image _) := triple_encode _ hsteady
    rw [he] at hend
    exact hend.2 hlt
  · intro image e he
    rw [encode, he]
    rfl

end RoboBaton.Nv12
