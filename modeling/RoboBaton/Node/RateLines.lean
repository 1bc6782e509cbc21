import Mathlib.Data.List.TakeWhile
import RoboBaton.Library.Json
import RoboBaton.Node.CameraParameters
import RoboBaton.Camera.RateLog
import RoboBaton.Imu.RateLog

/-! The lines of the rate log: the run id that the node accepts, and the texts that the
publishers format from it and from their records. -/

namespace RoboBaton.Node
open Format Json Metrics Transition

/-! ### The run id -/

/-- The characters that `LoadRateRunId` lets pass. -/
def safe (value : UInt8) : Bool :=
  (value ≥ byte 'a' && value ≤ byte 'z') || (value ≥ byte 'A' && value ≤ byte 'Z') ||
    (value ≥ byte '0' && value ≤ byte '9') || value == byte '-' || value == byte '_' ||
    value == byte '.' || value == byte ':'

def checkRateRunId : List UInt8 → Except Error Unit
  | [] => .ok ()
  | value :: rest =>
    if !safe value then
      .error (.invalidArgument "diagnostics.rate_run_id accepts only ASCII alnum and -_.:")
    else checkRateRunId rest

def loadRateRunId (runId : List UInt8) : Except Error (List UInt8) := do
  checkRateRunId runId
  .ok runId

def Safe (runId : List UInt8) : Prop := ∀ value ∈ runId, safe value = true

instance (runId : List UInt8) : Decidable (Safe runId) :=
  inferInstanceAs (Decidable (∀ value ∈ runId, safe value = true))

theorem checkRateRunId_eq (runId : List UInt8) : checkRateRunId runId =
    if Safe runId then .ok ()
    else .error (.invalidArgument "diagnostics.rate_run_id accepts only ASCII alnum and -_.:") := by
  induction runId with
  | nil => exact (if_pos fun _ hv => absurd hv List.not_mem_nil).symm
  | cons value rest ih =>
    have hcons : Safe (value :: rest) ↔ safe value = true ∧ Safe rest := List.forall_mem_cons
    rw [checkRateRunId]
    by_cases hvalue : safe value = true
    · rw [hvalue, if_neg (by decide), ih]
      simp only [hcons, hvalue, true_and]
    · rw [Bool.eq_false_iff.mpr hvalue, if_neg fun h => hvalue (hcons.mp h).1]
      rfl

theorem loadRateRunId_eq (runId : List UInt8) : loadRateRunId runId =
    if Safe runId then .ok runId
    else .error (.invalidArgument "diagnostics.rate_run_id accepts only ASCII alnum and -_.:") := by
  rw [loadRateRunId, checkRateRunId_eq]
  split <;> rfl

theorem plain_of_safe {value : UInt8} (h : safe value = true) :
    plain value = true ∧ (value != 0) = true := by
  simp only [safe, plain, Bool.or_eq_true, Bool.and_eq_true, decide_eq_true_eq, beq_iff_eq,
    bne_iff_ne, ne_eq, ge_iff_le, UInt8.le_iff_toNat_le, UInt8.lt_iff_toNat_lt,
    ← UInt8.toNat_inj] at h ⊢
  simp [byte] at h ⊢
  omega

theorem Safe.plain {runId : List UInt8} (h : Safe runId) : Plain runId := fun value hv =>
  (plain_of_safe (h value hv)).1

theorem Safe.takeWhile {runId : List UInt8} (h : Safe runId) :
    runId.takeWhile (· != 0) = runId :=
  List.takeWhile_eq_self_iff.mpr fun value hv => (plain_of_safe (h value hv)).2

/-! ### The lines -/

def cameraRateFormat : String :=
  "ROB2_RATE \x7b\"schema\":\"robobaton-rate-v1\",\"run_id\":\"%s\",\"kind\":\"camera\",\"id\":%u,\"interval_start_monotonic_ns\":%llu,\"interval_end_monotonic_ns\":%llu,\"source\":%llu,\"published\":%llu,\"auxiliary_published\":%llu,\"dropped\":%llu,\"publish_failures\":%llu,\"sequence_gaps\":%llu,\"sequence_duplicates\":%llu,\"sequence_regressions\":%llu,\"timestamp_duplicates\":%llu,\"timestamp_regressions\":%llu,\"publish_latency_count\":%llu,\"publish_latency_sum_ns\":%llu,\"publish_latency_max_ns\":%llu\x7d"

/-- The line of `CameraPublisher::Impl::LogRateMetrics`. -/
def cameraRateLine (runId : List UInt8) (cameraId : UInt32) (record : PublicationRateSnapshot) :
    Option (List UInt8) :=
  printf cameraRateFormat
    [.text runId, .unsigned cameraId,
      .unsignedLongLong record.intervalStartMonotonicNs,
      .unsignedLongLong record.intervalEndMonotonicNs,
      .unsignedLongLong (record.count .source),
      .unsignedLongLong (record.count .publish),
      .unsignedLongLong (record.count .auxiliary),
      .unsignedLongLong (record.count .drop),
      .unsignedLongLong (record.count .failure),
      .unsignedLongLong (record.count .sequenceGap),
      .unsignedLongLong (record.count .sequenceDuplicate),
      .unsignedLongLong (record.count .sequenceRegression),
      .unsignedLongLong (record.count .timestampDuplicate),
      .unsignedLongLong (record.count .timestampRegression),
      .unsignedLongLong (record.count .latencyCount),
      .unsignedLongLong (record.count .latencySum),
      .unsignedLongLong record.publishLatencyMaxNs]

def imuRateFormat : String :=
  "ROB2_RATE \x7b\"schema\":\"robobaton-rate-v1\",\"run_id\":\"%s\",\"kind\":\"imu\",\"interval_start_monotonic_ns\":%llu,\"interval_end_monotonic_ns\":%llu,\"source\":%llu,\"published\":%llu,\"auxiliary_published\":%llu,\"dropped\":%llu,\"publish_failures\":%llu,\"timestamp_duplicates\":%llu,\"timestamp_regressions\":%llu,\"publish_latency_count\":%llu,\"publish_latency_sum_ns\":%llu,\"publish_latency_max_ns\":%llu\x7d"

/-- The line of `ImuPublisher::Impl::LogRateMetrics`. -/
def imuRateLine (runId : List UInt8) (record : PublicationRateSnapshot) : Option (List UInt8) :=
  printf imuRateFormat
    [.text runId,
      .unsignedLongLong record.intervalStartMonotonicNs,
      .unsignedLongLong record.intervalEndMonotonicNs,
      .unsignedLongLong (record.count .source),
      .unsignedLongLong (record.count .publish),
      .unsignedLongLong (record.count .auxiliary),
      .unsignedLongLong (record.count .drop),
      .unsignedLongLong (record.count .failure),
      .unsignedLongLong (record.count .timestampDuplicate),
      .unsignedLongLong (record.count .timestampRegression),
      .unsignedLongLong (record.count .latencyCount),
      .unsignedLongLong (record.count .latencySum),
      .unsignedLongLong record.publishLatencyMaxNs]

/-! ### The objects in them -/

structure RateField where
  key : String
  get : PublicationRateSnapshot → UInt64

def RateField.member (record : PublicationRateSnapshot) (f : RateField) : Member :=
  (ascii f.key, .number (f.get record).toNat)

def cameraRateFields : List RateField :=
  [⟨"interval_start_monotonic_ns", fun r => r.intervalStartMonotonicNs⟩,
    ⟨"interval_end_monotonic_ns", fun r => r.intervalEndMonotonicNs⟩,
    ⟨"source", fun r => r.count .source⟩,
    ⟨"published", fun r => r.count .publish⟩,
    ⟨"auxiliary_published", fun r => r.count .auxiliary⟩,
    ⟨"dropped", fun r => r.count .drop⟩,
    ⟨"publish_failures", fun r => r.count .failure⟩,
    ⟨"sequence_gaps", fun r => r.count .sequenceGap⟩,
    ⟨"sequence_duplicates", fun r => r.count .sequenceDuplicate⟩,
    ⟨"sequence_regressions", fun r => r.count .sequenceRegression⟩,
    ⟨"timestamp_duplicates", fun r => r.count .timestampDuplicate⟩,
    ⟨"timestamp_regressions", fun r => r.count .timestampRegression⟩,
    ⟨"publish_latency_count", fun r => r.count .latencyCount⟩,
    ⟨"publish_latency_sum_ns", fun r => r.count .latencySum⟩,
    ⟨"publish_latency_max_ns", fun r => r.publishLatencyMaxNs⟩]

def imuRateFields : List RateField :=
  cameraRateFields.filter fun f =>
    f.key ∉ ["sequence_gaps", "sequence_duplicates", "sequence_regressions"]

def rateHeader (runId : List UInt8) (kind : String) : List Member :=
  [(ascii "schema", .string (ascii "robobaton-rate-v1")), (ascii "run_id", .string runId),
    (ascii "kind", .string (ascii kind))]

def cameraRateMembers (runId : List UInt8) (cameraId : UInt32) (record : PublicationRateSnapshot) :
    List Member :=
  rateHeader runId "camera" ++ (ascii "id", .number cameraId.toNat) ::
    cameraRateFields.map (RateField.member record)

def imuRateMembers (runId : List UInt8) (record : PublicationRateSnapshot) : List Member :=
  rateHeader runId "imu" ++ imuRateFields.map (RateField.member record)

set_option maxRecDepth 10000 in
theorem cameraRateLine_eq (runId : List UInt8) (cameraId : UInt32)
    (record : PublicationRateSnapshot) : cameraRateLine runId cameraId record =
      some (ascii "ROB2_RATE " ++
        write (cameraRateMembers (runId.takeWhile (· != 0)) cameraId record)) :=
  (printf_ofList _ _).trans rfl

set_option maxRecDepth 10000 in
theorem imuRateLine_eq (runId : List UInt8) (record : PublicationRateSnapshot) :
    imuRateLine runId record =
      some (ascii "ROB2_RATE " ++ write (imuRateMembers (runId.takeWhile (· != 0)) record)) :=
  (printf_ofList _ _).trans rfl

def cameraRateKeys : List String :=
  ["schema", "run_id", "kind", "id"] ++ cameraRateFields.map RateField.key

def imuRateKeys : List String := ["schema", "run_id", "kind"] ++ imuRateFields.map RateField.key

theorem map_fst_member (record : PublicationRateSnapshot) (fs : List RateField) :
    (fs.map (RateField.member record)).map Prod.fst = (fs.map RateField.key).map ascii := by
  rw [List.map_map, List.map_map]
  rfl

theorem cameraRateMembers_keys (runId : List UInt8) (cameraId : UInt32)
    (record : PublicationRateSnapshot) :
    (cameraRateMembers runId cameraId record).map Prod.fst = cameraRateKeys.map ascii := rfl

theorem imuRateMembers_keys (runId : List UInt8) (record : PublicationRateSnapshot) :
    (imuRateMembers runId record).map Prod.fst = imuRateKeys.map ascii := by
  rw [imuRateMembers, List.map_append, map_fst_member, imuRateKeys, List.map_append]
  rfl

theorem cameraRateFields_plain : ∀ f ∈ cameraRateFields, Plain (ascii f.key) := by decide +kernel

theorem cameraRateKeys_nodup : (cameraRateKeys.map ascii).Nodup := by decide +kernel

theorem imuRateKeys_nodup : (imuRateKeys.map ascii).Nodup := by decide +kernel

section Members
variable {runId runId' : List UInt8} {record record' : PublicationRateSnapshot}

theorem rateHeader_ok (h : Safe runId) {kind : String} (hkind : Plain (ascii kind)) :
    ∀ m ∈ rateHeader runId kind, m.Ok := by
  have hstring : ∀ {key text : List UInt8}, Plain key → Plain text →
      Member.Ok (key, .string text) := by
    rintro key text hkey htext
    refine ⟨hkey, ?_⟩
    rintro _ ⟨⟩
    exact htext
  rw [rateHeader, List.forall_mem_cons, List.forall_mem_cons, List.forall_mem_singleton]
  exact ⟨hstring (by decide +kernel) (by decide +kernel), hstring (by decide +kernel) h.plain,
    hstring (by decide +kernel) hkind⟩

theorem number_ok {key : List UInt8} {n : ℕ} (h : Plain key) : Member.Ok (key, .number n) :=
  ⟨h, fun _ hn => by cases hn⟩

theorem rateFields_ok {fs : List RateField} (h : fs ⊆ cameraRateFields) :
    ∀ m ∈ fs.map (RateField.member record), m.Ok := by
  intro m hm
  obtain ⟨f, hf, rfl⟩ := List.mem_map.mp hm
  exact number_ok (cameraRateFields_plain f (h hf))

theorem imuRateFields_subset : imuRateFields ⊆ cameraRateFields := fun _ hf =>
  List.mem_of_mem_filter hf

theorem cameraRateMembers_ok (h : Safe runId) (cameraId : UInt32)
    (record : PublicationRateSnapshot) :
    ∀ m ∈ cameraRateMembers runId cameraId record, m.Ok := by
  rw [cameraRateMembers, List.forall_mem_append, List.forall_mem_cons]
  exact ⟨rateHeader_ok h (by decide +kernel), number_ok (by decide +kernel),
    rateFields_ok (List.Subset.refl _)⟩

theorem imuRateMembers_ok (h : Safe runId) (record : PublicationRateSnapshot) :
    ∀ m ∈ imuRateMembers runId record, m.Ok := by
  rw [imuRateMembers, List.forall_mem_append]
  exact ⟨rateHeader_ok h (by decide +kernel), rateFields_ok imuRateFields_subset⟩

theorem rateFields_inj {fs : List RateField}
    (h : fs.map (RateField.member record) = fs.map (RateField.member record')) :
    ∀ f ∈ fs, f.get record = f.get record' := by
  intro f hf
  have hmember : f.member record = f.member record' := List.map_inj_left.mp h f hf
  exact UInt64.toNat_inj.mp (Value.number.inj (congrArg Prod.snd hmember))

theorem cameraRateFields_ext (h : ∀ f ∈ cameraRateFields, f.get record = f.get record') :
    record = record' := by
  simp only [cameraRateFields, List.forall_mem_cons] at h
  obtain ⟨hstart, hend, hsource, hpublish, hauxiliary, hdrop, hfailure, hgap, hduplicate,
    hregression, htsDuplicate, htsRegression, hcount, hsum, hmax, -⟩ := h
  apply PublicationRateSnapshot.ext
  · funext f
    cases f <;> assumption
  · exact hmax
  · exact hstart
  · exact hend

/-- `line` is the tag and one JSON object, on one line, with these members. -/
def OneObject (line : Option (List UInt8)) (ms : List Member) : Prop :=
  ∃ text, line = some (ascii "ROB2_RATE " ++ text) ∧ Printable text ∧ read text = some ms ∧
    (ms.map Prod.fst).Nodup

theorem camera_oneObject (h : Safe runId) (cameraId : UInt32)
    (record : PublicationRateSnapshot) : OneObject (cameraRateLine runId cameraId record)
      (cameraRateMembers runId cameraId record) := by
  have hok := cameraRateMembers_ok h cameraId record
  refine ⟨write (cameraRateMembers runId cameraId record), ?_, printable_write hok, read_write hok,
    ?_⟩
  · rw [cameraRateLine_eq, h.takeWhile]
  · exact cameraRateMembers_keys runId cameraId record ▸ cameraRateKeys_nodup

theorem imu_oneObject (h : Safe runId) (record : PublicationRateSnapshot) :
    OneObject (imuRateLine runId record) (imuRateMembers runId record) := by
  have hok := imuRateMembers_ok h record
  refine ⟨write (imuRateMembers runId record), ?_, printable_write hok, read_write hok, ?_⟩
  · rw [imuRateLine_eq, h.takeWhile]
  · exact imuRateMembers_keys runId record ▸ imuRateKeys_nodup

theorem OneObject.unique {line line' : Option (List UInt8)} {ms ms' : List Member}
    (h : OneObject line ms) (h' : OneObject line' ms') (heq : line = line') : ms = ms' := by
  obtain ⟨text, hline, -, hread, -⟩ := h
  obtain ⟨text', hline', -, hread', -⟩ := h'
  rw [hline, hline'] at heq
  obtain rfl : text = text' := List.append_cancel_left (Option.some.inj heq)
  exact Option.some.inj (hread.symm.trans hread')

theorem rateHeader_append_inj {kind kind' : String} {ms ms' : List Member}
    (h : rateHeader runId kind ++ ms = rateHeader runId' kind' ++ ms') :
    runId = runId' ∧ ascii kind = ascii kind' ∧ ms = ms' := by
  simp only [rateHeader, List.cons_append, List.nil_append, List.cons.injEq, Prod.mk.injEq,
    Value.string.injEq, true_and] at h
  exact h

end Members

/-! ### Runs of the node -/

structure RateSettings where
  rateMetricsEnabled : Bool
  rateLogPeriodMs : UInt32
  rateRunId : List UInt8
  deriving DecidableEq, Repr

namespace SensorNode
variable (node : SensorNode)

def loadRateMetricsEnabled : Bool := node.declareBool "diagnostics.rate_metrics_enabled" false

def loadRateLogPeriodMs (rateMetricsEnabled : Bool) : Except Error UInt32 := do
  let periodMs ← node.declareUint32 "diagnostics.rate_log_period_ms" 1000
  if rateMetricsEnabled ∧ periodMs = 0 then
    .error (.invalidArgument "diagnostics.rate_log_period_ms must be positive when enabled")
  else .ok periodMs

/-- The constructor up to `StartEnabledPublishers`. The override of the run id may hold any
bytes. -/
def loadRateSettings (runId : Option (List UInt8)) : Except Error RateSettings := do
  let rateMetricsEnabled := node.loadRateMetricsEnabled
  let rateLogPeriodMs ← node.loadRateLogPeriodMs rateMetricsEnabled
  let rateRunId ← loadRateRunId (runId.getD [])
  .ok { rateMetricsEnabled, rateLogPeriodMs, rateRunId }

theorem loadRateSettings_eq_ok {runId : Option (List UInt8)} {settings : RateSettings}
    (h : node.loadRateSettings runId = .ok settings) :
    Safe (runId.getD []) ∧ settings.rateRunId = runId.getD [] := by
  simp only [loadRateSettings, bind_eq_ok, loadRateRunId_eq] at h
  obtain ⟨periodMs, -, rateRunId, hid, hsettings⟩ := h
  obtain rfl := Except.ok.inj hsettings
  split at hid
  · rename_i hsafe
    exact ⟨hsafe, (Except.ok.inj hid).symm⟩
  · cases hid

end SensorNode

structure RateNode (D P : Type) where
  constructed : Bool
  rateRunId : List UInt8
  cameras : Camera.State D × Camera.RateTimer
  imu : Imu.State P × Imu.RateTimer

inductive RateNodeAct (D P : Type)
  | construct
  | camera (a : (Σ i : Camera.Thread D, Camera.Act i) ⊕ Camera.RateAct)
  | imu (a : (Σ i, Imu.Act P i) ⊕ Imu.RateAct)

def RateNode.lines {D P : Type} (s : RateNode D P) : List (Option (List UInt8)) :=
  (Camera.cameras.flatMap fun c => (s.cameras.2.logs c).records.map fun record =>
    cameraRateLine s.rateRunId (UInt32.ofNat c) record) ++
  s.imu.2.log.records.map fun record => imuRateLine s.rateRunId record

theorem RateNode.mem_lines {D P : Type} {s : RateNode D P} {line : Option (List UInt8)}
    (h : line ∈ s.lines) :
    (∃ cameraId record, line = cameraRateLine s.rateRunId cameraId record) ∨
      ∃ record, line = imuRateLine s.rateRunId record := by
  rcases List.mem_append.mp h with hc | hi
  · obtain ⟨c, -, hc⟩ := List.mem_flatMap.mp hc
    obtain ⟨record, -, rfl⟩ := List.mem_map.mp hc
    exact .inl ⟨_, record, rfl⟩
  · obtain ⟨record, -, rfl⟩ := List.mem_map.mp hi
    exact .inr ⟨record, rfl⟩

section Runs
variable {D P : Type} [Fintype D] [DecidableEq D] [Inhabited P]

variable (D P) in
/-- The publishers take steps only once the constructor has read its parameters. -/
def rateNodeSystem (cameraInfo temperature : Bool) (node : SensorNode)
    (runId : Option (List UInt8)) : System (RateNode D P) (RateNodeAct D P) where
  start := ⟨false, [], (Camera.rateSystem D cameraInfo).start, (Imu.rateSystem P temperature).start⟩
  next
    | .construct, s =>
      match s.constructed, node.loadRateSettings runId with
      | false, .ok settings => some { s with constructed := true, rateRunId := settings.rateRunId }
      | _, _ => none
    | .camera a, s =>
      if s.constructed then
        ((Camera.rateSystem D cameraInfo).next a s.cameras).map fun cameras => { s with cameras }
      else none
    | .imu a, s =>
      if s.constructed then
        ((Imu.rateSystem P temperature).next a s.imu).map fun imu => { s with imu }
      else none

def Accepted (runId : Option (List UInt8)) (s : RateNode D P) : Prop :=
  if s.constructed then Safe (runId.getD []) ∧ s.rateRunId = runId.getD [] else s.lines = []

theorem reachable_accepted {cameraInfo temperature : Bool} {node : SensorNode}
    {runId : Option (List UInt8)} {s : RateNode D P}
    (h : (rateNodeSystem D P cameraInfo temperature node runId).Reachable s) :
    Accepted runId s := by
  refine h.invariant (P := Accepted runId) ?_ ?_
  · exact (rfl : RateNode.lines (rateNodeSystem D P cameraInfo temperature node runId).start = [])
  intro s a t _ hs hn
  cases a with
  | construct =>
    simp only [rateNodeSystem] at hn
    split at hn
    · rename_i settings _ hsettings
      obtain rfl := Option.some.inj hn
      exact node.loadRateSettings_eq_ok hsettings
    · cases hn
  | camera a =>
    obtain ⟨hconstructed, hn⟩ := Option.ite_none_right_eq_some.mp hn
    obtain ⟨cameras, -, rfl⟩ := Option.map_eq_some_iff.mp hn
    rw [Accepted, if_pos hconstructed] at hs ⊢
    exact hs
  | imu a =>
    obtain ⟨hconstructed, hn⟩ := Option.ite_none_right_eq_some.mp hn
    obtain ⟨imu, -, rfl⟩ := Option.map_eq_some_iff.mp hn
    rw [Accepted, if_pos hconstructed] at hs ⊢
    exact hs

end Runs

def IsRunId (runId : List UInt8) : Prop := ∃ parameter, loadRateRunId parameter = .ok runId

theorem isRunId_iff {runId : List UInt8} : IsRunId runId ↔ Safe runId := by
  constructor
  · rintro ⟨parameter, h⟩
    rw [loadRateRunId_eq] at h
    split at h
    · exact Except.ok.inj h ▸ ‹Safe parameter›
    · cases h
  · intro h
    refine ⟨runId, ?_⟩
    rw [loadRateRunId_eq, if_pos h]

/-- What holds of the texts behind the tag, for all run ids, cameras and records. -/
structure RateLines : Prop where
  camera : ∀ runId cameraId record, IsRunId runId →
    OneObject (cameraRateLine runId cameraId record) (cameraRateMembers runId cameraId record)
  imu : ∀ runId record, IsRunId runId →
    OneObject (imuRateLine runId record) (imuRateMembers runId record)
  camera_inj : ∀ runId runId' cameraId cameraId' record record', IsRunId runId → IsRunId runId' →
    cameraRateLine runId cameraId record = cameraRateLine runId' cameraId' record' →
    runId = runId' ∧ cameraId = cameraId' ∧ record = record'
  imu_inj : ∀ runId runId' record record', IsRunId runId → IsRunId runId' →
    imuRateLine runId record = imuRateLine runId' record' →
    runId = runId' ∧ ∀ f ∈ imuRateFields, f.get record = f.get record'
  kinds : ∀ runId runId' cameraId record record', IsRunId runId → IsRunId runId' →
    cameraRateLine runId cameraId record ≠ imuRateLine runId' record'
  rejected : ∀ (node : SensorNode) runId, (∃ value ∈ runId, safe value = false) →
    loadRateRunId runId =
      .error (.invalidArgument "diagnostics.rate_run_id accepts only ASCII alnum and -_.:") ∧
    (∃ e, node.loadRateSettings (some runId) = .error e) ∧
    ∀ (D P : Type) [Fintype D] [DecidableEq D] [Inhabited P] (cameraInfo temperature : Bool) s,
      (rateNodeSystem D P cameraInfo temperature node (some runId)).Reachable s → s.lines = []
  emitted : ∀ (node : SensorNode) runId (D P : Type) [Fintype D] [DecidableEq D] [Inhabited P]
    (cameraInfo temperature : Bool) s,
    (rateNodeSystem D P cameraInfo temperature node runId).Reachable s →
    ∀ line ∈ s.lines, IsRunId (runId.getD []) ∧
      ((∃ cameraId record, line = cameraRateLine (runId.getD []) cameraId record) ∨
        ∃ record, line = imuRateLine (runId.getD []) record)

theorem rate_lines : RateLines where
  camera runId cameraId record h := camera_oneObject (isRunId_iff.mp h) cameraId record
  imu runId record h := imu_oneObject (isRunId_iff.mp h) record
  camera_inj runId runId' cameraId cameraId' record record' h h' heq := by
    have hmembers := (camera_oneObject (isRunId_iff.mp h) cameraId record).unique
      (camera_oneObject (isRunId_iff.mp h') cameraId' record') heq
    obtain ⟨hid, -, hrest⟩ := rateHeader_append_inj hmembers
    obtain ⟨hcamera, hfields⟩ := List.cons.inj hrest
    refine ⟨hid, UInt32.toNat_inj.mp (Value.number.inj (congrArg Prod.snd hcamera)), ?_⟩
    exact cameraRateFields_ext (rateFields_inj hfields)
  imu_inj runId runId' record record' h h' heq := by
    have hmembers := (imu_oneObject (isRunId_iff.mp h) record).unique
      (imu_oneObject (isRunId_iff.mp h') record') heq
    obtain ⟨hid, -, hfields⟩ := rateHeader_append_inj hmembers
    exact ⟨hid, rateFields_inj hfields⟩
  kinds runId runId' cameraId record record' h h' heq := by
    have hmembers := (camera_oneObject (isRunId_iff.mp h) cameraId record).unique
      (imu_oneObject (isRunId_iff.mp h') record') heq
    obtain ⟨-, hkind, -⟩ := rateHeader_append_inj hmembers
    exact absurd hkind (by decide +kernel)
  rejected node runId hunsafe := by
    obtain ⟨value, hvalue, hfalse⟩ := hunsafe
    have hnot : ¬ Safe runId := fun hsafe =>
      absurd (hsafe value hvalue) (Bool.eq_false_iff.mp hfalse)
    refine ⟨?_, ?_, ?_⟩
    · rw [loadRateRunId_eq, if_neg hnot]
    · cases hload : node.loadRateSettings (some runId) with
      | error e => exact ⟨e, rfl⟩
      | ok settings => exact absurd (node.loadRateSettings_eq_ok hload).1 hnot
    · intro D P _ _ _ cameraInfo temperature s hs
      have haccepted := reachable_accepted hs
      unfold Accepted at haccepted
      split at haccepted
      · exact absurd haccepted.1 hnot
      · exact haccepted
  emitted node runId D P _ _ _ cameraInfo temperature s hs line hline := by
    have haccepted := reachable_accepted hs
    unfold Accepted at haccepted
    split at haccepted
    · obtain ⟨hsafe, hid⟩ := haccepted
      exact ⟨isRunId_iff.mpr hsafe, hid ▸ RateNode.mem_lines hline⟩
    · rw [haccepted] at hline
      exact absurd hline List.not_mem_nil

end RoboBaton.Node
