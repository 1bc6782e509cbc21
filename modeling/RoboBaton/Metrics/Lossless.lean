import RoboBaton.Metrics.Concurrent

/-! Concurrent updates are never lost: what every step keeps, and what is in the object when
all calls have returned. -/

namespace RoboBaton.Metrics
open Transition

def Caller.pending (f : Field) : Caller → Nat
  | .outside => 0
  | .inside _ as => f.pending as

def Caller.sectionAhead (x : Call) : Caller → Nat
  | .outside => 0
  | .inside c as => if c = x ∧ as.any Access.locks = true then 1 else 0

section Run
variable {ι : Type} [DecidableEq ι] {width : SequenceWidth}
  {s : Config ι Log (fun _ => Caller)}

theorem plain_balance [Fintype ι] {f : Field} (hf : f.plain = true)
    (h : (recorders ι width).Reachable s) :
    (s.shared.calls.map (Call.worth f)).sum =
      (f.counter s.shared.metrics).total + ∑ i, (s.locals i).pending f := by
  refine Threads.Reachable.balance (fun s => (s.calls.map (Call.worth f)).sum)
    (fun s => (f.counter s.metrics).total) (fun _ l => l.pending f) ?_ ?_ h
  · have hnew : (f.counter (new width)).total = 0 := by cases f <;> rfl
    simp [recorders, hnew, Caller.pending]
  · intro s i a s' l' _ hst
    obtain hstep := callerStep_cases hst
    generalize s.locals i = l at hstep
    cases hstep with
    | call c =>
      simp only [List.map_append, List.sum_append, List.map_cons, List.map_nil, List.sum_cons,
        List.sum_nil, Caller.pending, Call.worth]
      omega
    | access c a as spurious =>
      obtain ⟨htotal, hrest⟩ := counter_exec spurious s.shared.metrics a hf
      simp only [Caller.pending, Field.pending_cons, Field.pending_append, hrest, htotal]
      omega
    | returns c => simp [Caller.pending]

def CallerOk (s : Log) : Caller → Prop
  | .outside => True
  | .inside c as => c ∈ s.calls ∧ Remains c as ∧ Ahead s.metrics c as

structure LogOk (width : SequenceWidth) (s : Log) : Prop where
  latencyMax : s.metrics.publishLatencyMaxNs = 0 ∨
    ∃ c ∈ s.calls, c.latency? = some s.metrics.publishLatencyMaxNs
  first : s.metrics.firstMonotonicNs = 0 ∨
    ∃ c ∈ s.calls, c.monotonic? = some s.metrics.firstMonotonicNs
  locked : ∀ c ∈ s.locked, c.isSource = true
  history : s.metrics.history = (sequential width s.locked).history

theorem CallerStep.grows {s s' : Log} {l l' : Caller} (h : CallerStep s l s' l')
    (hl : CallerOk s l) : Grows s.metrics s'.metrics ∧ s.calls ⊆ s'.calls ∧ CallerOk s' l' := by
  cases h with
  | call c =>
    exact ⟨grows_refl _, List.subset_append_left _ _,
      List.mem_append_right _ (List.mem_singleton_self c), remains_accesses c,
      ahead_accesses _ c⟩
  | access c a as spurious =>
    obtain ⟨hc, hremains, hahead⟩ := hl
    obtain ⟨hgrows, hahead'⟩ := hremains.ahead spurious hahead
    exact ⟨hgrows, List.Subset.refl _, hc, hremains.exec spurious _, hahead'⟩
  | returns c => exact ⟨grows_refl _, List.Subset.refl _, trivial⟩

theorem CallerOk.mono {s s' : Log} {l : Caller} (h : CallerOk s l)
    (hgrows : Grows s.metrics s'.metrics) (hcalls : s.calls ⊆ s'.calls) : CallerOk s' l := by
  cases l with
  | outside => trivial
  | inside c as =>
    obtain ⟨hc, hremains, hlatency, hmonotonic⟩ := h
    exact ⟨hcalls hc, hremains, hlatency.imp_right hgrows.latencyIn,
      hmonotonic.imp_right hgrows.monotonicIn⟩

theorem CallerStep.logOk {s s' : Log} {l l' : Caller} (h : CallerStep s l s' l')
    (hs : LogOk width s) (hl : CallerOk s l) : LogOk width s' := by
  cases h with
  | call c =>
    refine ⟨hs.latencyMax.imp_right ?_, hs.first.imp_right ?_, hs.locked, hs.history⟩
    · rintro ⟨c', hc', he⟩
      exact ⟨c', List.mem_append_left _ hc', he⟩
    · rintro ⟨c', hc', he⟩
      exact ⟨c', List.mem_append_left _ hc', he⟩
  | access c a as spurious =>
    obtain ⟨hc, hremains, -⟩ := hl
    obtain ⟨hmax, hfirst⟩ := hremains.values spurious s.metrics
    obtain ⟨hlocks, -⟩ := hremains.locks spurious s.metrics
    refine ⟨?_, ?_, ?_, ?_⟩
    · obtain he | he := hmax
      · rw [he]
        exact hs.latencyMax
      · exact .inr ⟨c, hc, he⟩
    · obtain he | he := hfirst
      · rw [he]
        exact hs.first
      · exact .inr ⟨c, hc, he⟩
    · intro c' hc'
      dsimp only at hc'
      split at hc'
      · rename_i hlock
        obtain hold | hnew := List.mem_append.mp hc'
        · exact hs.locked c' hold
        · rw [List.mem_singleton.mp hnew]
          exact (hlocks hlock).2.1
      · exact hs.locked c' hc'
    · show (a.exec spurious s.metrics).1.history = _
      rw [history_exec]
      dsimp only
      split
      · rename_i hlock
        obtain ⟨hsection, -⟩ := hlocks hlock
        rw [sequential, List.foldl_append, List.foldl_cons, List.foldl_nil,
          history_perform hsection, hs.history]
        rfl
      · exact hs.history
  | returns c => exact hs

theorem recorders_ok (h : (recorders ι width).Reachable s) :
    LogOk width s.shared ∧ ∀ i, CallerOk s.shared (s.locals i) := by
  refine Threads.Reachable.outline (J := fun _ s l => CallerOk s l)
    ⟨⟨.inl rfl, .inl rfl, nofun, rfl⟩, fun i => show CallerOk _ .outside from trivial⟩ ?_ ?_ h
  · intro s i a s' l' _ hs hl hst
    have hstep := callerStep_cases hst
    exact ⟨hstep.logOk hs hl, (hstep.grows hl).2.2⟩
  · intro s i a s' l' _ _ hl hst j _ hj
    obtain ⟨hgrows, hcalls, -⟩ := (callerStep_cases hst).grows hl
    exact hj.mono hgrows hcalls

theorem calls_settled (h : (recorders ι width).Reachable s) :
    ∀ c ∈ s.shared.calls, (LatencyIn s.shared.metrics c ∧ MonotonicIn s.shared.metrics c) ∨
      ∃ i as, s.locals i = .inside c as := by
  refine System.Reachable.invariant (M := (recorders ι width).toSystem)
    (P := fun s => ∀ c ∈ s.shared.calls,
      (LatencyIn s.shared.metrics c ∧ MonotonicIn s.shared.metrics c) ∨
        ∃ i as, s.locals i = .inside c as) nofun ?_ h
  rintro s ⟨i, a⟩ t hs ih hn c hc
  obtain ⟨s', l', hst, rfl⟩ := Threads.next_eq_some (T := recorders ι width) hn
  obtain ⟨-, hok⟩ := recorders_ok hs
  have hstep := callerStep_cases hst
  obtain ⟨hgrows, -, -⟩ := hstep.grows (hok i)
  have hkeep : (LatencyIn s.shared.metrics c ∧ MonotonicIn s.shared.metrics c) →
      LatencyIn s'.metrics c ∧ MonotonicIn s'.metrics c := fun hc =>
    ⟨hgrows.latencyIn hc.1, hgrows.monotonicIn hc.2⟩
  have hother : ∀ j as, j ≠ i → s.locals j = .inside c as →
      ∃ j as, Function.update s.locals i l' j = .inside c as := fun j as hj hl =>
    ⟨j, as, by rw [Function.update_of_ne hj, hl]⟩
  have hown : ∀ as, l' = .inside c as →
      ∃ j as, Function.update s.locals i l' j = .inside c as := fun as hl =>
    ⟨i, as, by rw [Function.update_self, hl]⟩
  -- the thread that moved may have left the call, and then the call is settled
  have hleft : c ∈ s.shared.calls → ∀ as, s.locals i = .inside c as →
      (LatencyIn s'.metrics c ∧ MonotonicIn s'.metrics c) ∨ ∃ as, l' = .inside c as := by
    intro _ as hl
    have hi := hok i
    rw [hl] at hstep hi
    cases hstep with
    | access _ a as spurious => exact .inr ⟨_, rfl⟩
    | returns _ => exact .inl hi.2.2.settled
  have hold : c ∈ s.shared.calls → (LatencyIn s'.metrics c ∧ MonotonicIn s'.metrics c) ∨
      ∃ j as, Function.update s.locals i l' j = .inside c as := fun hmem => by
    obtain hdone | ⟨j, as, hl⟩ := ih c hmem
    · exact .inl (hkeep hdone)
    · by_cases hj : j = i
      · subst hj
        obtain hdone | ⟨as', hl'⟩ := hleft hmem as hl
        · exact .inl hdone
        · exact .inr (hown as' hl')
      · exact .inr (hother j as hj hl)
  generalize hl : s.locals i = l at hstep
  cases hstep with
  | call c' =>
    obtain hmem | hnew := List.mem_append.mp hc
    · exact hold hmem
    · rw [List.mem_singleton.mp hnew] at hown ⊢
      exact .inr (hown _ rfl)
  | access c' a as spurious => exact hold hc
  | returns c' => exact hold hc

theorem locked_balance [Fintype ι] {x : Call} (hx : x.isSource = true)
    (h : (recorders ι width).Reachable s) :
    s.shared.calls.count x =
      s.shared.locked.count x + ∑ i, (s.locals i).sectionAhead x := by
  have hok := fun s (hs : (recorders ι width).Reachable s) => (recorders_ok hs).2
  refine Threads.Reachable.balance (fun s => s.calls.count x) (fun s => s.locked.count x)
    (fun _ l => l.sectionAhead x) ?_ ?_ h
  · simp [recorders, Caller.sectionAhead]
  · intro s i a s' l' hs hst
    have hstep := callerStep_cases hst
    have hl := hok s hs i
    generalize s.locals i = l at hstep hl
    cases hstep with
    | call c =>
      by_cases hc : c = x
      · subst hc
        simp [Caller.sectionAhead, locks_accesses hx]
        omega
      · simp [Caller.sectionAhead, hc]
    | access c a as spurious =>
      obtain ⟨hlock, hfree⟩ := hl.2.1.locks spurious s.shared.metrics
      cases ha : a.locks with
      | true =>
        obtain ⟨-, -, hnil⟩ := hlock ha
        simp only [Caller.sectionAhead, hnil, List.any_cons, ha, if_true, List.count_append]
        by_cases hc : c = x
        · simp [hc]
          omega
        · simp [hc]
      | false =>
        simp only [Caller.sectionAhead, hfree ha, List.any_cons, ha, Bool.false_or,
          Bool.false_eq_true, if_false]
    | returns c => simp [Caller.sectionAhead]

end Run

/-! ### What a call is worth -/

theorem pending_setFirst {f : Field} (ns : UInt64) : f.pending (setFirstMonotonic ns) = 0 := by
  unfold setFirstMonotonic
  split
  · rfl
  · cases f <;> rfl

def Call.share : Field → Call → Nat
  | .source, .source .. | .source, .sourceWithoutSequence .. => 1
  | .publish, .publishSuccess _ | .latencyCount, .publishSuccess _ => 1
  | .latencySum, .publishSuccess latencyNs => latencyNs.toNat
  | .auxiliary, .auxiliaryPublishSuccess => 1
  | .drop, .drop => 1
  | .failure, .publishFailure => 1
  | _, _ => 0

theorem worth_eq (f : Field) (c : Call) : c.worth f = c.share f := by
  cases c with
  | source sequence timestampNs monotonicNs =>
    rw [Call.worth, Call.accesses, recordSource, Field.pending_append, pending_setFirst]
    cases f <;> rfl
  | sourceWithoutSequence timestampNs monotonicNs =>
    rw [Call.worth, Call.accesses, recordSourceWithoutSequence, Field.pending_append,
      pending_setFirst]
    cases f <;> rfl
  | publishSuccess latencyNs =>
    cases f with
    | latencySum => exact (Nat.zero_add _).trans (Nat.zero_add _)
    | _ => rfl
  | _ => cases f <;> rfl

theorem sum_worth {f : Field} {p : Call → Bool} (h : ∀ c, c.share f = if p c then 1 else 0)
    (calls : List Call) : (calls.map (Call.worth f)).sum = calls.countP p := by
  induction calls with
  | nil => rfl
  | cons c calls ih =>
    rw [List.map_cons, List.sum_cons, List.countP_cons, ih, worth_eq, h c, Nat.add_comm]

def latencies (calls : List Call) : List Nat := (calls.filterMap Call.latency?).map UInt64.toNat

def times (calls : List Call) : List UInt64 := calls.filterMap Call.monotonic?

theorem sum_latencies (calls : List Call) :
    (calls.map (Call.worth .latencySum)).sum = (latencies calls).sum := by
  induction calls with
  | nil => rfl
  | cons c calls ih =>
    rw [List.map_cons, List.sum_cons, ih, worth_eq]
    cases c with
    | publishSuccess latencyNs => rfl
    | _ => exact Nat.zero_add _

/-! ### The theorem -/

structure Settled (width : SequenceWidth) (s : Log) : Prop where
  source : s.metrics.sourceCount.load = .ofNat (s.calls.countP Call.isSource)
  publish : s.metrics.publishCount.load = .ofNat (s.calls.countP fun c => c.latency?.isSome)
  auxiliary : s.metrics.auxiliaryPublishCount.load =
    .ofNat (s.calls.count .auxiliaryPublishSuccess)
  drop : s.metrics.dropCount.load = .ofNat (s.calls.count .drop)
  failure : s.metrics.publishFailureCount.load = .ofNat (s.calls.count .publishFailure)
  latencyCount : s.metrics.publishLatencyCount.load =
    .ofNat (s.calls.countP fun c => c.latency?.isSome)
  latencySum : s.metrics.publishLatencySumNs.load = .ofNat (latencies s.calls).sum
  latencyMax : s.metrics.publishLatencyMaxNs.toNat = (latencies s.calls).foldr max 0
  first : (s.metrics.firstMonotonicNs ≠ 0 ∧ s.metrics.firstMonotonicNs ∈ times s.calls) ∨
    (s.metrics.firstMonotonicNs = 0 ∧ ∀ ns ∈ times s.calls, ns = 0)
  order : s.locked.Perm (s.calls.filter Call.isSource)
  anomalies : ∀ f : Field, f.plain = false →
    f.counter s.metrics = f.counter (sequential width s.locked)

theorem counter_history {f : Field} (hf : f.plain = false) (m : Metrics) :
    f.counter m.history = f.counter m := by
  cases f <;> first | exact absurd hf (by decide) | rfl

theorem foldr_max_eq {l : List Nat} {n : Nat} (hle : ∀ x ∈ l, x ≤ n) (hmem : n = 0 ∨ n ∈ l) :
    n = l.foldr max 0 := by
  have hupper : l.foldr max 0 ≤ n := by
    clear hmem
    induction l with
    | nil => exact Nat.zero_le _
    | cons a l ih =>
      exact Nat.max_le.mpr ⟨hle a List.mem_cons_self,
        ih fun x hx => hle x (List.mem_cons_of_mem _ hx)⟩
  have hlower : ∀ x ∈ l, x ≤ l.foldr max 0 := by
    clear hmem hle hupper
    induction l with
    | nil => nofun
    | cons a l ih =>
      intro x hx
      rcases List.mem_cons.mp hx with rfl | hx
      · exact Nat.le_max_left _ _
      · exact (ih x hx).trans (Nat.le_max_right _ _)
  rcases hmem with rfl | hmem
  · omega
  · exact Nat.le_antisymm (hlower n hmem) hupper

section Final
variable {ι : Type} [DecidableEq ι] [Fintype ι] {width : SequenceWidth}
  {s : Config ι Log (fun _ => Caller)}

theorem plain_settled {f : Field} (hf : f.plain = true) (h : (recorders ι width).Reachable s)
    (hout : ∀ i, s.locals i = .outside) :
    (f.counter s.shared.metrics).load = .ofNat (s.shared.calls.map (Call.worth f)).sum := by
  have hbalance := plain_balance hf h
  have hzero : ∑ i, (s.locals i).pending f = 0 :=
    Finset.sum_eq_zero fun i _ => by rw [hout i]; rfl
  rw [Counter.load, hbalance, hzero, Nat.add_zero]

theorem settled (h : (recorders ι width).Reachable s) (hout : ∀ i, s.locals i = .outside) :
    Settled width s.shared := by
  obtain ⟨hlog, -⟩ := recorders_ok h
  have hcalls : ∀ c ∈ s.shared.calls,
      LatencyIn s.shared.metrics c ∧ MonotonicIn s.shared.metrics c := fun c hc =>
    (calls_settled h c hc).resolve_right fun ⟨i, as, hl⟩ => by rw [hout i] at hl; cases hl
  have hplain : ∀ {f : Field} {p : Call → Bool}, f.plain = true →
      (∀ c, c.share f = if p c then 1 else 0) →
      (f.counter s.shared.metrics).load = .ofNat (s.shared.calls.countP p) := fun hf hp =>
    (plain_settled hf h hout).trans (congrArg UInt64.ofNat (sum_worth hp _))
  refine ⟨hplain (f := .source) rfl fun c => ?_, hplain (f := .publish) rfl fun c => ?_,
    hplain (f := .auxiliary) rfl fun c => ?_, hplain (f := .drop) rfl fun c => ?_,
    hplain (f := .failure) rfl fun c => ?_, hplain (f := .latencyCount) rfl fun c => ?_,
    (plain_settled (f := .latencySum) rfl h hout).trans (congrArg _ (sum_latencies _)),
    ?_, ?_, ?_, ?_⟩
  · cases c <;> rfl
  · cases c <;> rfl
  · cases c <;> rfl
  · cases c <;> rfl
  · cases c <;> rfl
  · cases c <;> rfl
  · -- every latency is below the maximum, which is one of them
    refine foldr_max_eq (fun x hx => ?_) ?_
    · obtain ⟨ns, hns, rfl⟩ := List.mem_map.mp hx
      obtain ⟨c, hc, hlatency⟩ := List.mem_filterMap.mp hns
      exact (hcalls c hc).1 ns hlatency
    · obtain hz | ⟨c, hc, hlatency⟩ := hlog.latencyMax
      · exact .inl (by rw [hz]; rfl)
      · exact .inr (List.mem_map.mpr ⟨_, List.mem_filterMap.mpr ⟨c, hc, hlatency⟩, rfl⟩)
  · by_cases hz : s.shared.metrics.firstMonotonicNs = 0
    · refine .inr ⟨hz, fun ns hns => ?_⟩
      obtain ⟨c, hc, hmonotonic⟩ := List.mem_filterMap.mp hns
      by_contra hne
      exact (hcalls c hc).2 ns hmonotonic hne hz
    · obtain ⟨c, hc, hmonotonic⟩ := hlog.first.resolve_left hz
      exact .inl ⟨hz, List.mem_filterMap.mpr ⟨c, hc, hmonotonic⟩⟩
  · refine List.perm_iff_count.mpr fun x => ?_
    cases hx : x.isSource with
    | true =>
      have hzero : ∑ i, (s.locals i).sectionAhead x = 0 :=
        Finset.sum_eq_zero fun i _ => by rw [hout i]; rfl
      rw [List.count_filter hx, locked_balance hx h, hzero, Nat.add_zero]
    | false =>
      have hlocked : x ∉ s.shared.locked := fun hmem => by
        rw [hlog.locked x hmem] at hx
        cases hx
      have hfilter : x ∉ s.shared.calls.filter Call.isSource := fun hmem => by
        rw [(List.mem_filter.mp hmem).2] at hx
        cases hx
      rw [List.count_eq_zero.mpr hlocked, List.count_eq_zero.mpr hfilter]
  · intro f hf
    rw [← counter_history hf s.shared.metrics, hlog.history, counter_history hf]

/-- Whatever the interleaving, no update is lost: nothing ever decreases, the first time is
set once, and when all calls have returned the object holds what the calls have brought. -/
theorem updates_lossless (h : (recorders ι width).Reachable s) :
    (∀ e t, (recorders ι width).next e s = some t →
      Grows s.shared.metrics t.shared.metrics ∧
        ∀ f : Field, (f.counter t.shared.metrics).total < 2 ^ 64 →
          (f.counter s.shared.metrics).load ≤ (f.counter t.shared.metrics).load) ∧
    (∀ t, (recorders ι width).toSystem.Later s t → s.shared.metrics.firstMonotonicNs ≠ 0 →
      t.shared.metrics.firstMonotonicNs = s.shared.metrics.firstMonotonicNs) ∧
    ((∀ i, s.locals i = .outside) → Settled width s.shared) := by
  have hgrows : ∀ {s e t}, (recorders ι width).Reachable s →
      (recorders ι width).next e s = some t → Grows s.shared.metrics t.shared.metrics := by
    intro s e t hs hn
    obtain ⟨s', l', hst, rfl⟩ := Threads.next_eq_some (T := recorders ι width) hn
    exact ((callerStep_cases hst).grows ((recorders_ok hs).2 _)).1
  refine ⟨fun e t hn => ⟨hgrows h hn, fun f hf => ?_⟩, fun t ht hne => ?_, settled h⟩
  · have hle := (hgrows h hn).total f
    rw [UInt64.le_iff_toNat_le, Counter.toNat_load _ hf, Counter.toNat_load _ (by omega)]
    exact hle
  · refine System.Later.stable (M := (recorders ι width).toSystem) (P := fun t =>
      t.shared.metrics.firstMonotonicNs = s.shared.metrics.firstMonotonicNs) ?_ h rfl ht
    intro u e t hu hfirst hn
    obtain he | hz := (hgrows hu hn).first
    · exact he.trans hfirst
    · exact absurd (hfirst.symm.trans hz) hne

end Final

def racingRecorders : List (Σ _ : Bool, CallerAct) :=
  [⟨true, .call (.publishSuccess 5)⟩, ⟨false, .call (.publishSuccess 3)⟩] ++
    List.replicate 4 ⟨true, .access false⟩ ++ List.replicate 4 ⟨false, .access false⟩ ++
    [⟨true, .access true⟩, ⟨false, .access false⟩, ⟨true, .access false⟩, ⟨true, .access false⟩,
      ⟨false, .returns⟩, ⟨true, .returns⟩]

theorem updates_lossless_racing :
    ∃ s, (recorders Bool .kNone).Reachable s ∧ s.shared.metrics.publishLatencyMaxNs.toNat = 5 := by
  have hrun : (((recorders Bool .kNone).toSystem.run racingRecorders
      (recorders Bool .kNone).toSystem.start)).isSome = true := rfl
  have hs := System.reachable_get hrun
  have hout : ∀ i, (Option.get _ hrun).locals i = .outside := fun i => by
    cases i <;> rfl
  refine ⟨_, hs, ?_⟩
  rw [((updates_lossless hs).2.2 hout).latencyMax]
  rfl

end RoboBaton.Metrics
