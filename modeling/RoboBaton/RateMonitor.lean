import Mathlib.Algebra.Order.Field.Rat
import RoboBaton.Library.System
import RoboBaton.Node.CameraParameters

/-! `ImuRateMonitor`, an executable of its own: it counts the messages of an IMU topic and reports
their rate from time to time. -/

namespace RoboBaton.RateMonitor
open Transition Node

/-! ### Parameters -/

def kDefaultImuTopic : String := "/robobaton/imu/data"

def declarePositiveUint32 (node : SensorNode) (name : String) (defaultValue : UInt32) :
    Except Error UInt32 :=
  let value := node.integer name defaultValue.toUInt64.toInt64
  if value ≤ 0 ∨ value > 0xffffffff then
    .error (.invalidArgument (name ++ " must be a positive uint32"))
  else .ok value.toUInt64.toUInt32

def isWhitespace (c : Char) : Bool := c == ' ' || c == '\t' || c == '\r' || c == '\n'

def declareTopic (node : SensorNode) : Except Error String :=
  let topic := node.declareString "topic" kDefaultImuTopic
  if topic.toList.head? ≠ some '/' ∨ topic.toList.any isWhitespace = true then
    .error (.invalidArgument "topic must be an absolute ROS topic name without whitespace")
  else .ok topic

theorem declarePositiveUint32_eq_ok {node : SensorNode} {name : String} {d v : UInt32} :
    declarePositiveUint32 node name d = .ok v ↔
      0 < v.toNat ∧ (v.toNat : Int) = (node.integer name d.toUInt64.toInt64).toInt := by
  have hmax : (0xffffffff : Int64).toInt = 2 ^ 32 - 1 := by decide
  unfold declarePositiveUint32
  generalize node.integer name d.toUInt64.toInt64 = x
  have hlt := v.toNat_lt
  simp only [gt_iff_lt, Int64.le_iff_toInt_le, Int64.lt_iff_toInt_lt, Int64.toInt_zero, hmax]
  split
  · simp only [reduceCtorEq, false_iff]
    omega
  · rename_i hx
    have hv := Timestamp.toNat_toUInt64 (x := x) (by omega)
    rw [Except.ok.injEq, ← UInt32.toNat_inj, UInt64.toNat_toUInt32]
    omega

theorem declareTopic_eq_ok {node : SensorNode} {topic : String} :
    declareTopic node = .ok topic ↔ node.declareString "topic" kDefaultImuTopic = topic ∧
      topic.toList.head? = some '/' ∧ ∀ c ∈ topic.toList, isWhitespace c = false := by
  unfold declareTopic
  generalize node.declareString "topic" kDefaultImuTopic = text
  dsimp only
  split
  · rename_i hbad
    simp only [reduceCtorEq, false_iff]
    rintro ⟨rfl, hhead, hall⟩
    rcases hbad with hbad | hbad
    · exact hbad hhead
    · obtain ⟨c, hc, hblank⟩ := List.any_eq_true.mp hbad
      exact Bool.false_ne_true ((hall c hc).symm.trans hblank)
  · rename_i hok
    obtain ⟨hhead, hany⟩ := not_or.mp hok
    rw [Except.ok.injEq]
    constructor
    · rintro rfl
      refine ⟨rfl, not_not.mp hhead, fun c hc => ?_⟩
      exact Bool.eq_false_of_not_eq_true fun hblank =>
        hany (List.any_eq_true.mpr ⟨c, hc, hblank⟩)
    · exact And.left

/-! ### The monitor -/

/-- The numbers of one line; `hz` without the rounding of `double`. -/
structure Report where
  hz : ℚ
  samples : UInt64
  windowNs : Int
  total : UInt64
  deriving DecidableEq, Repr

/-- What a `Report` has read: the clock, and then the number of messages that had come. -/
structure Reading where
  now : Int
  received : ℕ
  deriving DecidableEq, Repr

/-- The members of the node, a reading of the clock inside `Report`, and the history. -/
structure ImuRateMonitor where
  topic : String
  reportPeriodMs : UInt32
  qosDepth : UInt32
  totalCount : UInt64
  lastTotal : UInt64
  lastReportTime : Int
  now : Option Int
  reports : List Report
  received : ℕ
  readings : List Reading
  deriving DecidableEq, Repr

def imuRateMonitor (node : SensorNode) (now : Int) : Except Error ImuRateMonitor := do
  let topic ← declareTopic node
  let reportPeriodMs ← declarePositiveUint32 node "report_period_ms" 1000
  let qosDepth ← declarePositiveUint32 node "qos_depth" 100
  .ok ⟨topic, reportPeriodMs, qosDepth, 0, 0, now, none, [], 0, []⟩

def report (m : ImuRateMonitor) (now : Int) : ImuRateMonitor :=
  let windowNs := now - m.lastReportTime
  let samples := m.totalCount - m.lastTotal
  let hz : ℚ := if windowNs > 0 then samples.toNat * 10 ^ 9 / windowNs else 0
  { m with
    lastReportTime := now
    lastTotal := m.totalCount
    now := none
    reports := m.reports ++ [⟨hz, samples, windowNs, m.totalCount⟩] }

inductive Act
  | message
  | readClock (now : Int)
  | load
  deriving DecidableEq, Repr

/-- A message may come between the two readings of `Report`. -/
def monitor (m : ImuRateMonitor) : System ImuRateMonitor Act where
  start := m
  next
    | .message, m =>
      some { m with totalCount := m.totalCount + 1, received := m.received + 1 }
    | .readClock now, m => if m.now.isNone then some { m with now := some now } else none
    | .load, m =>
      m.now.map fun now => { report m now with readings := m.readings ++ [⟨now, m.received⟩] }

structure Monitored (startTime : Int) (m : ImuRateMonitor) : Prop where
  accepted : (m.topic.toList.head? = some '/' ∧ ∀ c ∈ m.topic.toList, isWhitespace c = false) ∧
    0 < m.reportPeriodMs.toNat ∧ 0 < m.qosDepth.toNat
  complete : m.reports.length = m.readings.length
  /-- The reports up to one of them have counted each message that had come, once. -/
  counted : m.received < 2 ^ 64 → ∀ k reading, m.readings[k]? = some reading →
    ((m.reports.take (k + 1)).map fun r => r.samples.toNat).sum = reading.received ∧
      (m.reports[k]?).map (fun r => r.total.toNat) = some reading.received
  /-- Their windows cover the time from the start to its clock reading. -/
  tiled : ∀ k reading, m.readings[k]? = some reading →
    startTime + ((m.reports.take (k + 1)).map Report.windowNs).sum = reading.now
  rates : ∀ r ∈ m.reports,
    if 0 < r.windowNs then r.hz * r.windowNs = r.samples.toNat * 10 ^ 9 else r.hz = 0

structure MonitorOk (startTime : Int) (m : ImuRateMonitor) : Prop extends
    Monitored startTime m where
  total : m.received < 2 ^ 64 → m.totalCount.toNat = m.received
  lastTotal : m.received < 2 ^ 64 →
    (m.reports.map fun r => r.samples.toNat).sum = m.lastTotal.toNat ∧
      m.lastTotal.toNat ≤ m.received
  lastReportTime : startTime + (m.reports.map Report.windowNs).sum = m.lastReportTime

variable {startTime : Int} {m : ImuRateMonitor}

theorem monitorOk_start {node : SensorNode} (h : imuRateMonitor node startTime = .ok m) :
    MonitorOk startTime m := by
  obtain ⟨topic, htopic, h⟩ := bind_eq_ok.mp h
  obtain ⟨period, hperiod, h⟩ := bind_eq_ok.mp h
  obtain ⟨depth, hdepth, h⟩ := bind_eq_ok.mp h
  obtain rfl := Except.ok.inj h
  refine ⟨⟨⟨(declareTopic_eq_ok.mp htopic).2, (declarePositiveUint32_eq_ok.mp hperiod).1,
    (declarePositiveUint32_eq_ok.mp hdepth).1⟩, rfl, fun _ k reading hk => ?_,
    fun k reading hk => ?_, fun r hr => absurd hr List.not_mem_nil⟩, fun _ => rfl,
    fun _ => ⟨rfl, le_rfl⟩, Int.add_zero _⟩
  · cases hk
  · cases hk

theorem monitorOk_message (h : MonitorOk startTime m) : MonitorOk startTime
    { m with totalCount := m.totalCount + 1, received := m.received + 1 } := by
  refine ⟨⟨h.accepted, h.complete, fun hlt => h.counted (Nat.lt_of_succ_lt hlt), h.tiled, h.rates⟩,
    fun hlt => ?_, fun hlt => ?_, h.lastReportTime⟩
  · have htotal := h.total (Nat.lt_of_succ_lt hlt)
    show (m.totalCount + 1).toNat = m.received + 1
    rw [UInt64.toNat_add, htotal]
    exact Nat.mod_eq_of_lt hlt
  · obtain ⟨hsum, hle⟩ := h.lastTotal (Nat.lt_of_succ_lt hlt)
    exact ⟨hsum, hle.trans (Nat.le_succ _)⟩

theorem reading_cases {readings : List Reading} {last reading : Reading} {k : ℕ}
    (h : (readings ++ [last])[k]? = some reading) :
    readings[k]? = some reading ∧ k < readings.length ∨ k = readings.length ∧ reading = last := by
  rcases Nat.lt_trichotomy k readings.length with hlt | rfl | hgt
  · rw [List.getElem?_append_left hlt] at h
    exact .inl ⟨h, hlt⟩
  · rw [List.getElem?_concat_length] at h
    exact .inr ⟨rfl, (Option.some.inj h).symm⟩
  · rw [List.getElem?_eq_none (by simp; omega)] at h
    cases h

theorem monitorOk_report (h : MonitorOk startTime m) (now : Int) : MonitorOk startTime
    { report m now with readings := m.readings ++ [⟨now, m.received⟩] } := by
  have hlength := h.complete
  have hsamples : m.received < 2 ^ 64 →
      ((report m now).reports.map fun r => r.samples.toNat).sum = m.totalCount.toNat := by
    intro hlt
    obtain ⟨hsum, hle⟩ := h.lastTotal hlt
    have htotal := h.total hlt
    rw [report, List.map_append, List.sum_append, hsum, List.map_singleton, List.sum_singleton]
    show m.lastTotal.toNat + (m.totalCount - m.lastTotal).toNat = m.totalCount.toNat
    rw [UInt64.toNat_sub_of_le _ _ (UInt64.le_iff_toNat_le.mpr (by omega))]
    omega
  have hwindows : startTime + ((report m now).reports.map Report.windowNs).sum = now := by
    rw [report, List.map_append, List.sum_append, List.map_singleton, List.sum_singleton,
      ← Int.add_assoc, h.lastReportTime]
    show m.lastReportTime + (now - m.lastReportTime) = now
    omega
  -- the reports before the new one, and all of them
  have hbefore : ∀ k, k < m.readings.length →
      (report m now).reports.take (k + 1) = m.reports.take (k + 1) := fun k hk =>
    List.take_append_of_le_length (by omega)
  have hall : (report m now).reports.take (m.readings.length + 1) = (report m now).reports := by
    refine List.take_of_length_le ?_
    rw [report, List.length_append, List.length_singleton, hlength]
  refine ⟨⟨h.accepted, ?_, fun hlt k reading hk => ?_, fun k reading hk => ?_, fun r hr => ?_⟩,
    h.total, fun hlt => ?_, hwindows⟩
  · show (m.reports ++ [_]).length = (m.readings ++ [_]).length
    rw [List.length_append, List.length_append, hlength]
    rfl
  · show (((report m now).reports.take (k + 1)).map fun r => r.samples.toNat).sum = _ ∧
      ((report m now).reports[k]?).map _ = _
    obtain ⟨hold, hlater⟩ | ⟨rfl, rfl⟩ := reading_cases hk
    · rw [hbefore k hlater, report, List.getElem?_append_left (by omega)]
      exact h.counted hlt k reading hold
    · rw [hall, hsamples hlt, report, ← hlength, List.getElem?_concat_length]
      exact ⟨h.total hlt, congrArg some (h.total hlt)⟩
  · show startTime + (((report m now).reports.take (k + 1)).map Report.windowNs).sum = _
    obtain ⟨hold, hlater⟩ | ⟨rfl, rfl⟩ := reading_cases hk
    · rw [hbefore k hlater]
      exact h.tiled k reading hold
    · rw [hall]
      exact hwindows
  · rcases List.mem_append.mp hr with hr | hr
    · exact h.rates r hr
    · obtain rfl := List.mem_singleton.mp hr
      split
      · rename_i hpositive
        have hwindow : 0 < now - m.lastReportTime := hpositive
        exact div_mul_cancel₀ _ (Int.cast_ne_zero.mpr hwindow.ne')
      · rfl
  · exact ⟨hsamples hlt, (h.total hlt).le⟩

/-- In every run each message is reported once, in a window that begins where the last one ends. -/
theorem rate_monitor {node : SensorNode} {m₀ : ImuRateMonitor}
    (h₀ : imuRateMonitor node startTime = .ok m₀) (h : (monitor m₀).Reachable m) :
    Monitored startTime m := by
  refine (h.invariant (P := MonitorOk startTime) (monitorOk_start h₀) ?_).toMonitored
  rintro s (_ | now | _) t - ih hn
  · obtain rfl := Option.some.inj hn
    exact monitorOk_message ih
  · obtain ⟨-, hn⟩ := Option.ite_none_right_eq_some.mp hn
    obtain rfl := Option.some.inj hn
    exact ⟨⟨ih.accepted, ih.complete, ih.counted, ih.tiled, ih.rates⟩, ih.total, ih.lastTotal,
      ih.lastReportTime⟩
  · obtain ⟨now, -, rfl⟩ := Option.map_eq_some_iff.mp hn
    exact monitorOk_report ih now

def monitorNode : SensorNode :=
  ⟨fun name => if name = "report_period_ms" then some 500 else none, fun _ => none, fun _ => none,
    false, 0, ""⟩

def monitorStart : ImuRateMonitor :=
  ⟨kDefaultImuTopic, 500, 100, 0, 0, 7, none, [], 0, []⟩

def monitorActs : List Act :=
  [.message, .message, .readClock (7 + 10 ^ 9), .message, .load, .message,
    .readClock (7 + 3 * 10 ^ 9), .load]

def monitorEnd : ImuRateMonitor :=
  ((monitor monitorStart).run monitorActs (monitor monitorStart).start).get rfl

theorem rate_monitor_fourMessages :
    monitorEnd.reports.map (fun r => (r.samples, r.windowNs)) = [(3, 10 ^ 9), (1, 2 * 10 ^ 9)] ∧
      Monitored 7 monitorEnd :=
  ⟨by decide, rate_monitor (by decide : imuRateMonitor monitorNode 7 = .ok monitorStart)
    (System.reachable_get _)⟩

end RoboBaton.RateMonitor
