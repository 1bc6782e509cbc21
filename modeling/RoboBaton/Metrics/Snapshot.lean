import RoboBaton.Metrics.Fields
import RoboBaton.Library.Observer
import RoboBaton.Library.Adjacent

/-! `Snapshot` with its separate loads, `Delta`, and the history of one device in the rate
log. -/

namespace RoboBaton
open Metrics Transition

@[ext]
structure PublicationRateSnapshot where
  count : Field → UInt64
  publishLatencyMaxNs : UInt64
  intervalStartMonotonicNs : UInt64
  intervalEndMonotonicNs : UInt64

namespace PublicationRateSnapshot

def zero : PublicationRateSnapshot := ⟨fun _ => 0, 0, 0, 0⟩

def setCount (value : PublicationRateSnapshot) (f : Field) (n : UInt64) :
    PublicationRateSnapshot := { value with count := Function.update value.count f n }

def counts (value : PublicationRateSnapshot) (f : Field) : ℕ := (value.count f).toNat

theorem counts_setCount (value : PublicationRateSnapshot) (f : Field) (n : UInt64) :
    (value.setCount f n).counts f = n.toNat := by
  simp only [counts, setCount, Function.update_self]

theorem counts_setCount_of_ne (value : PublicationRateSnapshot) {f g : Field} (n : UInt64)
    (h : g ≠ f) : (value.setCount f n).counts g = value.counts g := by
  simp only [counts, setCount, Function.update_of_ne h]

end PublicationRateSnapshot

namespace Metrics
open PublicationRateSnapshot

inductive Load
  | count (f : Field)
  | latencyMax
  | first
  deriving DecidableEq

/-- `Snapshot`; its last member is the argument, which is there from the beginning. -/
def snapshot : List Load :=
  [.count .source, .count .publish, .count .auxiliary, .count .drop, .count .failure,
    .count .sequenceGap, .count .sequenceDuplicate, .count .sequenceRegression,
    .count .timestampDuplicate, .count .timestampRegression, .count .latencyCount,
    .count .latencySum, .latencyMax, .first]

def Load.exec (m : Metrics) (value : PublicationRateSnapshot) : Load → PublicationRateSnapshot
  | .count f => value.setCount f (f.counter m).load
  | .latencyMax => { value with publishLatencyMaxNs := m.publishLatencyMaxNs }
  | .first => { value with intervalStartMonotonicNs := m.firstMonotonicNs }

def snapshotAt (monotonicNs : UInt64) : PublicationRateSnapshot :=
  { zero with intervalEndMonotonicNs := monotonicNs }

def Load.field : Load → Option Field
  | .count f => some f
  | .latencyMax => none
  | .first => none

theorem snapshot_covers (f : Field) : ∃ l ∈ snapshot, l.field = some f :=
  ⟨.count f, by cases f <;> decide, rfl⟩

def totals (m : Metrics) (f : Field) : ℕ := (f.counter m).total

theorem totals_exec (spurious : Bool) (m : Metrics) (a : Access) :
    m.totals ≤ (a.exec spurious m).1.totals := fun f => le_exec spurious m a f

theorem Load.exec_frame {m : Metrics} {value : PublicationRateSnapshot} {l : Load} {f : Field}
    (h : l.field ≠ some f) : (l.exec m value).counts f = value.counts f := by
  cases l with
  | count g => exact counts_setCount_of_ne value _ fun hf => h (congrArg some hf.symm)
  | latencyMax => rfl
  | first => rfl

theorem Load.exec_copy {m : Metrics} {value : PublicationRateSnapshot} {l : Load} {f : Field}
    (h : l.field = some f) : (l.exec m value).counts f = (f.counter m).load.toNat := by
  cases l with
  | count g =>
    obtain rfl := Option.some.inj h
    exact counts_setCount value g _
  | latencyMax => cases h
  | first => cases h

def saturatingSubtract (after before : UInt64) : UInt64 :=
  if after ≥ before then after - before else 0

theorem toNat_saturatingSubtract (after before : UInt64) :
    (saturatingSubtract after before).toNat = after.toNat - before.toNat := by
  unfold saturatingSubtract
  split
  · rename_i h
    exact UInt64.toNat_sub_of_le _ _ h
  · rename_i h
    have hlt : after.toNat < before.toNat := by
      simpa only [ge_iff_le, UInt64.le_iff_toNat_le, not_le] using h
    rw [Nat.sub_eq_zero_of_le hlt.le]
    rfl

def delta (before after : PublicationRateSnapshot) : PublicationRateSnapshot where
  count f := saturatingSubtract (after.count f) (before.count f)
  publishLatencyMaxNs := after.publishLatencyMaxNs
  intervalStartMonotonicNs := before.intervalEndMonotonicNs
  intervalEndMonotonicNs := after.intervalEndMonotonicNs

theorem counts_delta (before after : PublicationRateSnapshot) (f : Field) :
    (delta before after).counts f = after.counts f - before.counts f :=
  toNat_saturatingSubtract _ _

end Metrics

/-! ### The rate log of one device -/

/-- What `LogRateMetrics` writes between two snapshots. -/
def rateRecord (previous current : PublicationRateSnapshot) : PublicationRateSnapshot :=
  let delta := Metrics.delta previous current
  { delta with
    intervalStartMonotonicNs :=
      if delta.intervalStartMonotonicNs = 0 then current.intervalStartMonotonicNs
      else delta.intervalStartMonotonicNs }

theorem counts_rateRecord (previous current : PublicationRateSnapshot) (f : Field) :
    (rateRecord previous current).counts f = current.counts f - previous.counts f :=
  counts_delta previous current f

/-- `previous_snapshot_`, and the history: the baseline, the snapshots since, and the records
written between them. -/
structure RateLog where
  previous : PublicationRateSnapshot
  baseline : PublicationRateSnapshot
  snapshots : List PublicationRateSnapshot
  records : List PublicationRateSnapshot

namespace RateLog

def start (baseline : PublicationRateSnapshot) : RateLog := ⟨baseline, baseline, [], []⟩

def write (log : RateLog) (current : PublicationRateSnapshot) : RateLog where
  previous := current
  baseline := log.baseline
  snapshots := log.snapshots ++ [current]
  records := log.records ++ [rateRecord log.previous current]

def windows (log : RateLog) : List (PublicationRateSnapshot × PublicationRateSnapshot) :=
  Adjacent.pairs (log.baseline :: log.snapshots)

structure Ok (now : Field → ℕ) (log : RateLog) : Prop where
  previous : (log.baseline :: log.snapshots).getLast? = some log.previous
  records : log.records = log.windows.map fun x => rateRecord x.1 x.2
  rising : ∀ x ∈ log.windows, x.1.counts ≤ x.2.counts
  reached : log.previous.counts ≤ now

variable {now now' : Field → ℕ} {log : RateLog} {current : PublicationRateSnapshot}

theorem start_ok (h : current.counts ≤ now) : Ok now (start current) where
  previous := rfl
  records := rfl
  rising := by simp [start, windows]
  reached := h

theorem Ok.mono (h : Ok now log) (hnow : now ≤ now') : Ok now' log :=
  { h with reached := h.reached.trans hnow }

theorem Ok.windows_write (h : Ok now log) (current : PublicationRateSnapshot) :
    (log.write current).windows = log.windows ++ [(log.previous, current)] :=
  Adjacent.pairs_concat h.previous current

theorem Ok.write (h : Ok now log) (hlow : log.previous.counts ≤ current.counts)
    (hcurrent : current.counts ≤ now) : Ok now (log.write current) where
  previous := by
    show (log.baseline :: log.snapshots ++ [current]).getLast? = some current
    exact List.getLast?_concat
  records := by
    rw [h.windows_write, List.map_append, ← h.records]
    rfl
  rising := by
    rw [h.windows_write, List.forall_mem_append, List.forall_mem_singleton]
    exact ⟨h.rising, hlow⟩
  reached := hcurrent

/-- The windows of a log account for the counters: no field decreases, no subtraction
saturates, and the records add up to the rise from the baseline to the last snapshot. -/
structure Accounts (log : RateLog) : Prop where
  previous : (log.baseline :: log.snapshots).getLast? = some log.previous
  rising : ∀ x ∈ log.windows, ∀ f, x.1.count f ≤ x.2.count f
  exact : ∀ x ∈ log.windows, ∀ f, (delta x.1 x.2).count f = x.2.count f - x.1.count f
  sum : ∀ f, (log.records.map fun r => (r.count f).toNat).sum + (log.baseline.count f).toNat =
    (log.previous.count f).toNat

theorem Ok.accounts (h : Ok now log) : Accounts log where
  previous := h.previous
  rising x hx f := h.rising x hx f
  exact x hx f := if_pos (h.rising x hx f)
  sum f := by
    have hsum := Adjacent.sum_pairs_sub (fun s => s.counts f) (fun x hx => h.rising x hx f)
      rfl h.previous
    have hrecords : (log.records.map fun r => (r.count f).toNat).sum =
        (log.windows.map fun x => x.2.counts f - x.1.counts f).sum := by
      rw [h.records, List.map_map]
      exact congrArg _ (List.map_congr_left fun x _ => counts_rateRecord x.1 x.2 f)
    rw [hrecords]
    exact hsum

end RateLog
end RoboBaton
