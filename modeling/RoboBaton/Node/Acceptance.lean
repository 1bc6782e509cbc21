import RoboBaton.Node.CameraParameters

/-! The supported camera parameters over the integers, and which assignments of the
parameters the three checks let through. -/

namespace RoboBaton.Node

@[ext]
structure CameraValues where
  cameraMask : Int
  fps : Int
  rotateDegrees : Int
  frameSetMaxSkewNs : Int
  frameSetTimeoutMs : Int
  triggerMode : String
  queueCapacity : Int
  queuePolicy : String
  publishCameraInfo : Bool
  imageEncoding : String
  publishCompressedImage : Bool
  compressedJpegQuality : Int
  frameIdPrefix : String
  deriving DecidableEq

structure Supported (v : CameraValues) : Prop where
  cameraMask : v.cameraMask ∈ [1, 2, 4, 8, 15]
  fps : v.fps ∈ [25, 30, 40, 50, 60]
  rotateDegrees : v.rotateDegrees ∈ [0, 90, 180, 270]
  rotateFps : v.rotateDegrees = 180 → v.fps = 30
  compressedJpegQuality : 1 ≤ v.compressedJpegQuality ∧ v.compressedJpegQuality ≤ 100
  frameSetTimeoutMs : 1 ≤ v.frameSetTimeoutMs ∧ v.frameSetTimeoutMs < 2 ^ 32
  frameSetMaxSkewNs : 1 ≤ v.frameSetMaxSkewNs
  queueCapacity : 1 ≤ v.queueCapacity
  queuePolicy : v.queuePolicy = "block" ∨ v.queuePolicy = "drop_newest"
  imageEncoding : v.imageEncoding = "nv12"
  triggerMode : v.triggerMode = "software_gpio" ∨ v.triggerMode = "none"

def QueuePolicy.text : QueuePolicy → String
  | .kBlock => "block"
  | .kDropNewest => "drop_newest"

structure Carries (v : CameraValues) (config : Config) : Prop where
  cameraMask : (config.options.cameraMask.toNat : Int) = v.cameraMask
  fps : config.options.fps.toInt = v.fps
  rotateDegrees : config.options.rotateDegrees.toInt = v.rotateDegrees
  frameSetMaxSkewNs : (config.options.frameSetMaxSkewNs.toNat : Int) = v.frameSetMaxSkewNs
  frameSetTimeoutMs : (config.options.frameSetTimeoutMs.toNat : Int) = v.frameSetTimeoutMs
  triggerMode : config.options.triggerMode = v.triggerMode
  queueCapacity : (config.queueCapacity.toNat : Int) = v.queueCapacity
  queuePolicy : config.queuePolicy.text = v.queuePolicy
  publishCameraInfo : config.publishCameraInfo = v.publishCameraInfo
  imageEncoding : config.imageEncoding = v.imageEncoding
  publishCompressedImage : config.publishCompressedImage = v.publishCompressedImage
  compressedJpegQuality : config.compressedJpegQuality.toInt = v.compressedJpegQuality
  frameIdPrefix : config.frameIdPrefix = v.frameIdPrefix

def SensorNode.supplied (node : SensorNode) : CameraValues where
  cameraMask := (node.integer "camera.camera_mask" 15).toInt
  fps := (node.integer "camera.fps" 30).toInt
  rotateDegrees := (node.integer "camera.rotate_degrees" 0).toInt
  frameSetMaxSkewNs := (node.integer "camera.frame_set_max_skew_ns" 10000000).toInt
  frameSetTimeoutMs := (node.integer "camera.frame_set_timeout_ms" 100).toInt
  triggerMode := node.declareString "camera.trigger_mode" "software_gpio"
  queueCapacity := (node.integer "camera.queue_capacity" 4).toInt
  queuePolicy := node.declareString "camera.queue_policy" "block"
  publishCameraInfo := node.declareBool "camera.publish_camera_info" true
  imageEncoding := node.declareString "camera.image_encoding" "nv12"
  publishCompressedImage := node.declareBool "camera.publish_compressed_image" true
  compressedJpegQuality := (node.integer "camera.compressed_jpeg_quality" 80).toInt
  frameIdPrefix := node.declareString "camera.frame_id_prefix" "robobaton_cam"

/-- What is left of the values after the conversions to `int`. -/
def CameraValues.narrowed (v : CameraValues) : CameraValues :=
  { v with
    fps := v.fps.bmod (2 ^ 32)
    rotateDegrees := v.rotateDegrees.bmod (2 ^ 32)
    compressedJpegQuality := v.compressedJpegQuality.bmod (2 ^ 32) }

/-! ### Each check over the integers -/

section Declared
variable {node : SensorNode} {name : String}

theorem declareUint64_eq_ok {d v : UInt64} : node.declareUint64 name d = .ok v ↔
    (v.toNat : Int) = (node.integer name d.toInt64).toInt := by
  unfold SensorNode.declareUint64
  generalize node.integer name d.toInt64 = x
  simp only [Int64.lt_iff_toInt_lt, Int64.toInt_zero]
  split
  · simp only [reduceCtorEq, false_iff]
    omega
  · rename_i hx
    have hv := Timestamp.toNat_toUInt64 (x := x) (by omega)
    rw [Except.ok.injEq, ← UInt64.toNat_inj]
    omega

theorem declareSize_eq_ok {d v : UInt64} : node.declareSize name d = .ok v ↔
    0 < v.toNat ∧ (v.toNat : Int) = (node.integer name d.toInt64).toInt := by
  unfold SensorNode.declareSize
  generalize node.integer name d.toInt64 = x
  simp only [Int64.le_iff_toInt_le, Int64.toInt_zero]
  split
  · simp only [reduceCtorEq, false_iff]
    omega
  · rename_i hx
    have hv := Timestamp.toNat_toUInt64 (x := x) (by omega)
    rw [Except.ok.injEq, ← UInt64.toNat_inj]
    omega

theorem declareUint32_eq_ok {d v : UInt32} : node.declareUint32 name d = .ok v ↔
    (v.toNat : Int) = (node.integer name d.toUInt64.toInt64).toInt := by
  have hmax : (0xffffffff : Int64).toInt = 2 ^ 32 - 1 := by decide
  unfold SensorNode.declareUint32
  generalize node.integer name d.toUInt64.toInt64 = x
  have hlt := v.toNat_lt
  simp only [gt_iff_lt, Int64.lt_iff_toInt_lt, Int64.toInt_zero, hmax]
  split
  · simp only [reduceCtorEq, false_iff]
    omega
  · rename_i hx
    have hv := Timestamp.toNat_toUInt64 (x := x) (by omega)
    rw [Except.ok.injEq, ← UInt32.toNat_inj, UInt64.toNat_toUInt32]
    omega

theorem parseQueuePolicy_eq_ok {value : String} {policy : QueuePolicy} :
    parseQueuePolicy value = .ok policy ↔ policy.text = value := by
  unfold parseQueuePolicy
  cases policy <;> simp only [QueuePolicy.text] <;> split_ifs <;> simp_all [eq_comm]

end Declared

theorem loadCameraConfig_eq_ok {node : SensorNode} {config : Config} :
    loadCameraConfig node = .ok config ↔
      Carries node.supplied.narrowed config ∧ 0 < config.queueCapacity.toNat ∧
        (1 ≤ config.compressedJpegQuality.toInt ∧ config.compressedJpegQuality.toInt ≤ 100) ∧
        config.rateMetricsEnabled = node.rateMetricsEnabled ∧
        config.rateLogPeriodMs = node.rateLogPeriodMs ∧ config.rateRunId = node.rateRunId := by
  have hint : ∀ (name : String) (d : Int32), (node.declareInt name d).toInt =
      (node.integer name d.toInt64).toInt.bmod (2 ^ 32) := fun name d => Int64.toInt_toInt32 _
  have hrange : ∀ x : Int32, (x < 1 ∨ x > 100) ↔ ¬ (1 ≤ x.toInt ∧ x.toInt ≤ 100) := fun x => by
    rw [gt_iff_lt, Int32.lt_iff_toInt_lt, Int32.lt_iff_toInt_lt,
      show (1 : Int32).toInt = 1 from rfl, show (100 : Int32).toInt = 100 from rfl]
    omega
  simp only [loadCameraConfig, bind_eq_ok, declareUint32_eq_ok, declareUint64_eq_ok,
    declareSize_eq_ok, parseQueuePolicy_eq_ok]
  constructor
  · rintro ⟨mask, hmask, skew, hskew, timeout, htimeout, capacity, ⟨hpos, hcapacity⟩, policy,
      hpolicy, h⟩
    split at h
    · cases h
    · rename_i hquality
      cases h
      rw [hrange, not_not] at hquality
      refine ⟨⟨hmask, hint .., hint .., hskew, htimeout, rfl, hcapacity, hpolicy, rfl, rfl, rfl,
        hint .., rfl⟩, hpos, hquality, rfl, rfl, rfl⟩
  · rintro ⟨h, hpos, hquality, henabled, hperiod, hid⟩
    refine ⟨_, h.cameraMask, _, h.frameSetMaxSkewNs, _, h.frameSetTimeoutMs, _,
      ⟨hpos, h.queueCapacity⟩, _, h.queuePolicy, ?_⟩
    have hq : node.declareInt "camera.compressed_jpeg_quality" 80 =
        config.compressedJpegQuality := by
      rw [← Int32.toInt_inj, hint, h.compressedJpegQuality]
      rfl
    have hf : node.declareInt "camera.fps" kDefaultFps = config.options.fps := by
      rw [← Int32.toInt_inj, hint, h.fps]
      rfl
    have hr : node.declareInt "camera.rotate_degrees" kDefaultRotateDegrees =
        config.options.rotateDegrees := by
      rw [← Int32.toInt_inj, hint, h.rotateDegrees]
      rfl
    have ht := h.triggerMode
    have hi := h.publishCameraInfo
    have he := h.imageEncoding
    have hc := h.publishCompressedImage
    have hp := h.frameIdPrefix
    rw [hq, hf, hr, if_neg (by rw [hrange, not_not]; exact hquality)]
    obtain ⟨⟨mask, fps, rotate, skew, timeout, trigger⟩, capacity, policy, info, encoding,
      compressed, quality, framePrefix, enabled, period, runId⟩ := config
    dsimp only at *
    subst ht hi he hc hp henabled hperiod hid
    rfl

theorem publisherChecks_eq_ok {config : Config} : publisherChecks config = .ok () ↔
    config.queueCapacity.toNat ≠ 0 ∧ config.imageEncoding = "nv12" ∧
      (1 ≤ config.compressedJpegQuality.toInt ∧ config.compressedJpegQuality.toInt ≤ 100) ∧
      (config.rateMetricsEnabled = true → config.rateLogPeriodMs ≠ 0) := by
  simp only [publisherChecks, ite_error_eq_ok, ← UInt64.toNat_inj, gt_iff_lt,
    Int32.lt_iff_toInt_lt, UInt64.toNat_zero, show (1 : Int32).toInt = 1 from rfl,
    show (100 : Int32).toInt = 100 from rfl, not_or, not_not, not_and, and_true, Int.not_lt,
    ne_eq, and_assoc]

theorem validateCameraOptions_eq_ok {options : Options} :
    validateCameraOptions options = .ok () ↔
      (options.cameraMask.toNat : Int) ∈ [1, 2, 4, 8, 15] ∧
      options.fps.toInt ∈ [25, 30, 40, 50, 60] ∧
      options.rotateDegrees.toInt ∈ [0, 90, 180, 270] ∧
      (options.rotateDegrees.toInt = 180 → options.fps.toInt = 30) ∧
      (options.frameSetTimeoutMs.toNat ≠ 0 ∧ options.frameSetMaxSkewNs.toNat ≠ 0) ∧
      (options.triggerMode = "software_gpio" ∨ options.triggerMode = "none") := by
  have hmask : options.cameraMask ∈ [0x1, 0x2, 0x4, 0x8, 0xF] ↔
      (options.cameraMask.toNat : Int) ∈ [1, 2, 4, 8, 15] := by
    simp only [List.mem_cons, List.not_mem_nil, or_false, ← UInt32.toNat_inj]
    norm_cast
  have hfps : options.fps ∈ [25, 30, 40, 50, 60] ↔
      options.fps.toInt ∈ [25, 30, 40, 50, 60] := by
    simp only [List.mem_cons, List.not_mem_nil, or_false, ← Int32.toInt_inj]
    rfl
  have hrotate : options.rotateDegrees ∈ [0, 90, 180, 270] ↔
      options.rotateDegrees.toInt ∈ [0, 90, 180, 270] := by
    simp only [List.mem_cons, List.not_mem_nil, or_false, ← Int32.toInt_inj]
    rfl
  have hhalf : options.rotateDegrees = 180 ↔ options.rotateDegrees.toInt = 180 := by
    rw [← Int32.toInt_inj]
    rfl
  have hthirty : options.fps = 30 ↔ options.fps.toInt = 30 := by
    rw [← Int32.toInt_inj]
    rfl
  have htimeout : options.frameSetTimeoutMs = 0 ↔ options.frameSetTimeoutMs.toNat = 0 := by
    rw [← UInt32.toNat_inj]
    rfl
  have hskew : options.frameSetMaxSkewNs = 0 ↔ options.frameSetMaxSkewNs.toNat = 0 := by
    rw [← UInt64.toNat_inj]
    rfl
  have htrigger : (¬ options.triggerMode = "software_gpio" → options.triggerMode = "none") ↔
      (options.triggerMode = "software_gpio" ∨ options.triggerMode = "none") :=
    Decidable.or_iff_not_imp_left.symm
  simp only [validateCameraOptions, ite_error_eq_ok, hmask, hfps, hrotate, hhalf, hthirty,
    htimeout, hskew, not_not, not_or, not_and, ne_eq, and_true, and_assoc, htrigger]

theorem acceptCamera_eq_ok {node : SensorNode} (hrates : node.rateMetricsEnabled = false)
    {config : Config} : acceptCamera node = .ok config ↔
      Supported node.supplied.narrowed ∧ Carries node.supplied.narrowed config ∧
        config.rateMetricsEnabled = node.rateMetricsEnabled ∧
        config.rateLogPeriodMs = node.rateLogPeriodMs ∧ config.rateRunId = node.rateRunId := by
  have hpolicy : ∀ {v : CameraValues} {c : Config}, Carries v c →
      v.queuePolicy = "block" ∨ v.queuePolicy = "drop_newest" := fun {v c} h => by
    rw [← h.queuePolicy]
    cases c.queuePolicy
    · exact .inl rfl
    · exact .inr rfl
  simp only [acceptCamera, bind_eq_ok, loadCameraConfig_eq_ok, Except.ok.injEq]
  constructor
  · rintro ⟨config, ⟨h, hpos, hquality, henabled, hperiod, hid⟩, ⟨⟩, hchecks, ⟨⟩, hvalid, rfl⟩
    obtain ⟨-, hencoding, -, -⟩ := publisherChecks_eq_ok.mp hchecks
    obtain ⟨hmask, hfps, hrotate, hhalf, ⟨htimeout, hskew⟩, htrigger⟩ :=
      validateCameraOptions_eq_ok.mp hvalid
    have hlt := config.options.frameSetTimeoutMs.toNat_lt
    rw [h.cameraMask] at hmask
    rw [h.fps] at hfps hhalf
    rw [h.rotateDegrees] at hrotate hhalf
    rw [h.compressedJpegQuality] at hquality
    rw [h.imageEncoding] at hencoding
    rw [h.triggerMode] at htrigger
    have h1 := h.frameSetTimeoutMs
    have h2 := h.frameSetMaxSkewNs
    have h3 := h.queueCapacity
    exact ⟨⟨hmask, hfps, hrotate, hhalf, hquality, by omega, by omega, by omega, hpolicy h,
      hencoding, htrigger⟩, h, henabled, hperiod, hid⟩
  · rintro ⟨hs, h, henabled, hperiod, hid⟩
    have h1 := h.frameSetTimeoutMs
    have h2 := h.frameSetMaxSkewNs
    have h3 := h.queueCapacity
    have h4 := hs.frameSetTimeoutMs
    have h5 := hs.frameSetMaxSkewNs
    have h6 := hs.queueCapacity
    have hquality := hs.compressedJpegQuality
    rw [← h.compressedJpegQuality] at hquality
    refine ⟨config, ⟨h, by omega, hquality, henabled, hperiod, hid⟩, ⟨⟩, ?_, ⟨⟩, ?_, rfl⟩
    · refine publisherChecks_eq_ok.mpr ⟨by omega, ?_, hquality, fun he => ?_⟩
      · rw [h.imageEncoding, hs.imageEncoding]
      · rw [henabled, hrates] at he
        cases he
    · refine validateCameraOptions_eq_ok.mpr ⟨?_, ?_, ?_, ?_, by omega, ?_⟩
      · rw [h.cameraMask]
        exact hs.cameraMask
      · rw [h.fps]
        exact hs.fps
      · rw [h.rotateDegrees]
        exact hs.rotateDegrees
      · rw [h.fps, h.rotateDegrees]
        exact hs.rotateFps
      · rw [h.triggerMode]
        exact hs.triggerMode

theorem exists_config {node : SensorNode} (hrates : node.rateMetricsEnabled = false)
    (h : Supported node.supplied.narrowed) : ∃ config, acceptCamera node = .ok config := by
  have hint : ∀ (name : String) (d : Int32), (node.declareInt name d).toInt =
      (node.integer name d.toInt64).toInt.bmod (2 ^ 32) := fun name d => Int64.toInt_toInt32 _
  have hbig : ∀ x : Int64, 1 ≤ x.toInt → (x.toUInt64.toNat : Int) = x.toInt := fun x hx =>
    Timestamp.toNat_toUInt64 (by omega)
  have hsmall : ∀ x : Int64, 1 ≤ x.toInt → x.toInt < 2 ^ 32 →
      (x.toUInt64.toUInt32.toNat : Int) = x.toInt := fun x hx hlt => by
    have := hbig x hx
    rw [UInt64.toNat_toUInt32]
    omega
  obtain ⟨policy, hpolicy⟩ : ∃ policy : QueuePolicy, policy.text = node.supplied.queuePolicy := by
    obtain hb | hd := h.queuePolicy
    · exact ⟨.kBlock, hb.symm⟩
    · exact ⟨.kDropNewest, hd.symm⟩
  have hmask : 1 ≤ node.supplied.cameraMask ∧ node.supplied.cameraMask < 2 ^ 32 := by
    have := h.cameraMask
    simp only [CameraValues.narrowed, List.mem_cons, List.not_mem_nil, or_false] at this
    omega
  refine ⟨⟨⟨(node.integer "camera.camera_mask" 15).toUInt64.toUInt32,
    node.declareInt "camera.fps" kDefaultFps,
    node.declareInt "camera.rotate_degrees" kDefaultRotateDegrees,
    (node.integer "camera.frame_set_max_skew_ns" 10000000).toUInt64,
    (node.integer "camera.frame_set_timeout_ms" 100).toUInt64.toUInt32, _⟩,
    (node.integer "camera.queue_capacity" 4).toUInt64, policy, _, _, _,
    node.declareInt "camera.compressed_jpeg_quality" 80, _, _, _, _⟩,
    (acceptCamera_eq_ok hrates).mpr ⟨h, ⟨hsmall _ hmask.1 hmask.2, hint .., hint ..,
      hbig _ h.frameSetMaxSkewNs, hsmall _ h.frameSetTimeoutMs.1 h.frameSetTimeoutMs.2, rfl,
      hbig _ h.queueCapacity, hpolicy, rfl, rfl, rfl, hint .., rfl⟩, rfl, rfl, rfl⟩⟩

/-! ### Acceptance -/

/-- Accepted are the supported values and no others, and an accepted configuration has the
values the user wrote. -/
structure Accepts (node : SensorNode) : Prop where
  exactly : (∃ config, acceptCamera node = .ok config) ↔ Supported node.supplied
  unchanged : ∀ config, acceptCamera node = .ok config → Carries node.supplied config

theorem Supported.narrowed_eq {v : CameraValues} (h : Supported v) : v.narrowed = v := by
  have hsmall : ∀ n : Int, 0 ≤ n → n ≤ 270 → n.bmod (2 ^ 32) = n := fun n h0 h1 =>
    Int.bmod_eq_of_le (by omega) (by omega)
  have hfps := h.fps
  have hrotate := h.rotateDegrees
  have hquality := h.compressedJpegQuality
  simp only [List.mem_cons, List.not_mem_nil, or_false] at hfps hrotate
  rw [CameraValues.narrowed, hsmall _ (by omega) (by omega), hsmall _ (by omega) (by omega),
    hsmall _ (by omega) (by omega)]

theorem Carries.unique {v v' : CameraValues} {config : Config} (h : Carries v config)
    (h' : Carries v' config) : v = v' := by
  ext1
  · exact h.cameraMask.symm.trans h'.cameraMask
  · exact h.fps.symm.trans h'.fps
  · exact h.rotateDegrees.symm.trans h'.rotateDegrees
  · exact h.frameSetMaxSkewNs.symm.trans h'.frameSetMaxSkewNs
  · exact h.frameSetTimeoutMs.symm.trans h'.frameSetTimeoutMs
  · exact h.triggerMode.symm.trans h'.triggerMode
  · exact h.queueCapacity.symm.trans h'.queueCapacity
  · exact h.queuePolicy.symm.trans h'.queuePolicy
  · exact h.publishCameraInfo.symm.trans h'.publishCameraInfo
  · exact h.imageEncoding.symm.trans h'.imageEncoding
  · exact h.publishCompressedImage.symm.trans h'.publishCompressedImage
  · exact h.compressedJpegQuality.symm.trans h'.compressedJpegQuality
  · exact h.frameIdPrefix.symm.trans h'.frameIdPrefix

/-- The checks come after the conversion to `int`, so they are right about every assignment
but those that only the conversion makes supported. -/
theorem accepts_iff (node : SensorNode) (hrates : node.rateMetricsEnabled = false) :
    Accepts node ↔
      (Supported node.supplied.narrowed → node.supplied.narrowed = node.supplied) := by
  have hok : ∀ config, acceptCamera node = .ok config → _ := fun _ => (acceptCamera_eq_ok hrates).mp
  constructor
  · intro h hs
    obtain ⟨config, hc⟩ := exists_config hrates hs
    exact (hok config hc).2.1.unique (h.unchanged config hc)
  · intro h
    refine ⟨⟨?_, ?_⟩, ?_⟩
    · rintro ⟨config, hc⟩
      have hs := (hok config hc).1
      exact h hs ▸ hs
    · intro hs
      exact exists_config hrates (hs.narrowed_eq.symm ▸ hs)
    · intro config hc
      obtain ⟨hs, hcarries, -⟩ := hok config hc
      exact h hs ▸ hcarries

def withFps (fps : Int64) : SensorNode where
  integers := fun name => if name = "camera.fps" then some fps else none
  booleans := fun _ => none
  strings := fun _ => none
  rateMetricsEnabled := false
  rateLogPeriodMs := 1000
  rateRunId := ""

/-- A rate of 2^32 + 30 is taken for 30. -/
theorem accepted_fps : ¬ Accepts (withFps (2 ^ 32 + 30)) := by
  intro h
  have haccepted : ∃ config, acceptCamera (withFps (2 ^ 32 + 30)) = .ok config := ⟨_, rfl⟩
  have hfps := (h.exactly.mp haccepted).fps
  revert hfps
  decide

theorem accepts_iff_default : (withFps 30).rateMetricsEnabled = false ∧ Accepts (withFps 30) := by
  have hrates : (withFps 30).rateMetricsEnabled = false := rfl
  exact ⟨hrates, (accepts_iff (withFps 30) hrates).mpr fun _ => by decide⟩

end RoboBaton.Node
