import RoboBaton.Node.Quality

/-! The constructor of `SensorNode`: the IMU is set up and started before the parameters of the
camera are even declared, and each core is started with what the parameters say. -/

namespace RoboBaton.Node
open Nv12 Throwing

inductive CoreStart
  | imu (config : Imu.CoreConfig) (publishTemperature : Bool)
  | camera (config : Camera.CameraCoreConfig) (publishCameraInfo : Bool)
  deriving DecidableEq

structure Construction (N : Type) where
  node : N
  env : Environment
  starts : List CoreStart

/-- What the constructor calls: the libraries, `setenv`, and `Start` of the two cores. -/
structure Surroundings (N : Type) where
  ros : Ros N
  codec : Codec
  refused : String → Bool
  startReturns : CoreStart → Bool

section Constructor
variable {N : Type} (w : Surroundings N)

def onNode {α : Type} (call : EStateM Error N α) : EStateM Error (Construction N) α := fun c =>
  match call c.node with
  | .ok a node => .ok a { c with node }
  | .error e node => .error e { c with node }

def onEnvironment (configure : Environment → Except Error Environment) :
    EStateM Error (Construction N) Unit := do
  let env ← MonadExcept.ofExcept (configure (← get).env)
  modify fun c => { c with env }

def startCore (start : CoreStart) (failure : String) : EStateM Error (Construction N) Unit := do
  modify fun c => { c with starts := c.starts ++ [start] }
  if !w.startReturns start then throw (.runtimeError failure)

def startTimer (rateMetricsEnabled : Bool) (rateLogPeriodMs : UInt32) :
    EStateM Error (Construction N) Unit := do
  if rateMetricsEnabled then onNode (w.ros.createWallTimer rateLogPeriodMs)

def kImuTopic : String := "/robobaton/imu/data"
def kTemperatureTopic : String := "/robobaton/imu/temperature"

def imuPublisher (config : ImuConfig) : EStateM Error (Construction N) Unit := do
  MonadExcept.ofExcept (imuPublisherChecks config)
  onNode (w.ros.createPublisher kImuTopic)
  if config.publishTemperature then onNode (w.ros.createPublisher kTemperatureTopic)

def startImuPublisher (config : ImuConfig) : EStateM Error (Construction N) Unit := do
  startCore w (.imu (imuCoreConfig config) config.publishTemperature)
    "ICM publisher start failed or restart was rejected"
  startTimer w config.rateMetricsEnabled config.rateLogPeriodMs

def cameraPublisher (config : Config) : EStateM Error (Construction N) Unit := do
  MonadExcept.ofExcept (publisherChecks config)
  let _ ← onNode (createImagePublishers w.ros w.codec config
    (enabledCameras config.options.cameraMask))

def startCameraPublisher (config : Config) : EStateM Error (Construction N) Unit := do
  MonadExcept.ofExcept (validateCameraOptions config.options)
  onEnvironment fun env => configureSc132TriggerMode w.refused env config.options
  onEnvironment fun env => configureSc132SensorProfile w.refused env config.options
  startCore w (.camera (cameraCoreConfig config) config.publishCameraInfo)
    "SC132 publisher start failed or restart was rejected"
  startTimer w config.rateMetricsEnabled config.rateLogPeriodMs

def setUpImu (node : SensorNode) : EStateM Error (Construction N) Unit := do
  let config ← MonadExcept.ofExcept (loadImuConfig node)
  imuPublisher w config
  startImuPublisher w config

def setUpCamera (node : SensorNode) : EStateM Error (Construction N) Unit := do
  let config ← MonadExcept.ofExcept (loadCameraConfig node)
  cameraPublisher w config
  startCameraPublisher w config

def startEnabledPublishers (node : SensorNode) (enableImu enableCamera : Bool) :
    EStateM Error (Construction N) Unit := do
  if enableImu then setUpImu w node
  if enableCamera then setUpCamera w node

/-- The constructor. -/
def sensorNode (node : SensorNode) (runId : Option (List UInt8)) :
    EStateM Error (Construction N) Unit := do
  let enableCamera := node.declareBool "enable_camera" true
  let enableImu := node.declareBool "enable_imu" true
  let node ← MonadExcept.ofExcept (node.loadRates runId)
  startEnabledPublishers w node enableImu enableCamera

end Constructor

/-! ### The parts of the constructor -/

structure Surroundings.Calm {N : Type} (w : Surroundings N) : Prop where
  refused : ∀ name, w.refused name = false
  startReturns : ∀ start, w.startReturns start = true

section Parts
variable {N : Type} {w : Surroundings N} {n : SensorNode} {n₀ : N} {env : Environment}
  {starts : List CoreStart} {P : Construction N → Prop} {E : Error → Construction N → Prop}

theorem triple_onNode {α : Type} {call : EStateM Error N α} {Q : α → Construction N → Prop}
    (hok : ∀ c a node, P c → call c.node = .ok a node → Q a { c with node })
    (herror : ∀ c e node, P c → call c.node = .error e node → E e { c with node }) :
    Triple P (onNode call) Q E := by
  intro c hc
  rw [onNode]
  cases hcall : call c.node with
  | ok a node => exact hok c a node hc hcall
  | error e node => exact herror c e node hc hcall

theorem triple_onEnvironment {configure : Environment → Except Error Environment}
    {Q : Construction N → Prop}
    (hok : ∀ c env', P c → configure c.env = .ok env' → Q { c with env := env' })
    (herror : ∀ e c, P c → configure c.env = .error e → E e c) :
    Triple P (onEnvironment configure) (fun _ => Q) E := by
  rw [onEnvironment]
  refine (triple_get (Q := fun s c => s = c ∧ P c) fun c hc => ⟨rfl, hc⟩).bind fun s => ?_
  refine (triple_liftExcept (Q := fun env' c => P c ∧ configure c.env = .ok env') ?_ ?_).bind
    fun env' => triple_modify fun c hc => hok c env' hc.1 hc.2
  · rintro env' hcall c ⟨rfl, hc⟩
    exact ⟨hc, hcall⟩
  · rintro e hcall c ⟨rfl, hc⟩
    exact herror e s hc hcall

/-- The constructor has started these cores, and the node has no new parameter of image_transport. -/
structure Standing (w : Surroundings N) (n₀ : N) (env : Environment) (starts : List CoreStart)
    (c : Construction N) : Prop where
  starts : c.starts = starts
  env : c.env = env
  node : Frame w.ros [] n₀ c.node

theorem triple_create {call : EStateM Error N Unit}
    (hcall : ∀ node, ∃ node', call node = .ok () node' ∧ Frame w.ros [] node node') :
    Triple (Standing w n₀ env starts) (onNode call) (fun _ => Standing w n₀ env starts) E := by
  refine triple_onNode (fun c a node hc hok => ?_) fun c e node hc herror => ?_
  · obtain ⟨node', hreturns, hframe⟩ := hcall c.node
    obtain ⟨-, rfl⟩ := EStateM.Result.ok.inj (hreturns.symm.trans hok)
    exact ⟨hc.starts, hc.env, hc.node.trans hframe⟩
  · obtain ⟨node', hreturns, -⟩ := hcall c.node
    cases hreturns.symm.trans herror

def ImuStarted (w : Surroundings N) (n : SensorNode) (n₀ : N) (env : Environment)
    (c : Construction N) : Prop :=
  ∃ config, loadImuConfig n = .ok config ∧
    Standing w n₀ env [.imu (imuCoreConfig config) config.publishTemperature] c

theorem triple_imuPublisher (hros : Lawful w.ros) {config : ImuConfig}
    (hchecks : imuPublisherChecks config = .ok ()) :
    Triple (Standing w n₀ env []) (imuPublisher w config) (fun _ => Standing w n₀ env []) E := by
  rw [imuPublisher]
  refine (triple_liftExcept (Q := fun _ => Standing w n₀ env []) (fun _ _ c hc => hc)
    fun e herror => by cases hchecks.symm.trans herror).bind fun _ => ?_
  refine (triple_create (hros.createPublisher kImuTopic)).bind fun _ => ?_
  exact .ite (fun _ => triple_create (hros.createPublisher kTemperatureTopic))
    fun _ => triple_pure fun _ h => h

theorem triple_startImuPublisher (hros : Lawful w.ros) (config : ImuConfig) :
    Triple (Standing w n₀ env []) (startImuPublisher w config)
      (fun _ => Standing w n₀ env [.imu (imuCoreConfig config) config.publishTemperature])
      (fun _ c => Standing w n₀ env [.imu (imuCoreConfig config) config.publishTemperature] c ∧
        ¬ w.Calm) := by
  rw [startImuPublisher, startCore]
  refine Triple.bind (R := fun _ =>
    Standing w n₀ env [.imu (imuCoreConfig config) config.publishTemperature]) ?_ fun _ => ?_
  · refine (triple_modify (Q := fun _ =>
      Standing w n₀ env [.imu (imuCoreConfig config) config.publishTemperature]) fun c hc => ?_).bind
        fun _ => ?_
    · exact ⟨by rw [hc.starts]; rfl, hc.env, hc.node⟩
    · refine .ite (fun hfails => triple_throw fun c hc => ⟨hc, fun hcalm => ?_⟩)
        fun _ => triple_pure fun _ h => h
      rw [hcalm.startReturns] at hfails
      cases hfails
  · rw [startTimer]
    exact .ite (fun _ => triple_create (hros.createWallTimer _)) fun _ => triple_pure fun _ h => h

theorem triple_setUpImu (hros : Lawful w.ros)
    (hrates : n.rateMetricsEnabled = true → n.rateLogPeriodMs ≠ 0) :
    Triple (Standing w n₀ env []) (setUpImu w n) (fun _ => ImuStarted w n n₀ env)
      (fun _ c => Standing w n₀ env [] c ∧ (∀ config, loadImuConfig n ≠ .ok config) ∨
        ImuStarted w n n₀ env c ∧ ¬ w.Calm) := by
  rw [setUpImu]
  refine (triple_liftExcept (Q := fun config c => loadImuConfig n = .ok config ∧ Standing w n₀ env [] c)
    (fun config hload c hc => ⟨hload, hc⟩) fun e hload c hc =>
      .inl ⟨hc, fun config h => (by cases hload.symm.trans h)⟩).bind fun config => ?_
  rintro c ⟨hload, hc⟩
  have hchecks : imuPublisherChecks config = .ok () := by
    obtain ⟨-, -, hconfig⟩ := loadImuConfig_eq_ok.mp hload
    rw [imuPublisherChecks_eq_ok, hconfig]
    exact hrates
  refine (triple_imuPublisher hros hchecks).bind (fun _ => ?_) c hc
  exact (triple_startImuPublisher hros config).post (fun _ _ h => ⟨config, hload, h⟩)
    fun _ _ h => .inr ⟨⟨config, hload, h.1⟩, h.2⟩

/-- The image publishers of a configuration can be created. -/
def Transports (ros : Ros N) (config : Config) (n₀ : N) : Prop :=
  Each config fun before c => ∃ quality, settled ros config n₀ before c = some quality

structure CameraStarted (w : Surroundings N) (n₀ : N) (env : Environment) (starts : List CoreStart)
    (config : Config) (c : Construction N) : Prop where
  checked : publisherChecks config = .ok ()
  transports : Transports w.ros config n₀
  valid : validateCameraOptions config.options = .ok ()
  env : ∃ env₁, configureSc132TriggerMode w.refused env config.options = .ok env₁ ∧
    configureSc132SensorProfile w.refused env₁ config.options = .ok c.env
  starts : c.starts = starts ++ [.camera (cameraCoreConfig config) config.publishCameraInfo]

theorem triple_cameraPublisher (hros : Lawful w.ros) (hnew : Fresh w.ros n₀) (config : Config) :
    Triple (Standing w n₀ env starts) (cameraPublisher w config)
      (fun _ c => (publisherChecks config = .ok () ∧ Transports w.ros config n₀) ∧
        c.starts = starts ∧ c.env = env)
      (fun _ c => c.starts = starts ∧ ¬ (publisherChecks config = .ok () ∧
        Transports w.ros config n₀ ∧ Each config (Plain w.ros config n₀))) := by
  rw [cameraPublisher]
  refine (triple_liftExcept (Q := fun _ c => publisherChecks config = .ok () ∧ Standing w n₀ env starts c)
    (fun _ hchecks c hc => ⟨hchecks, hc⟩) fun e hchecks c hc =>
      ⟨hc.starts, fun h => (by cases hchecks.symm.trans h.1)⟩).bind fun _ => ?_
  refine (triple_onNode (Q := fun _ c => (publisherChecks config = .ok () ∧
    Transports w.ros config n₀) ∧ c.starts = starts ∧ c.env = env) ?_ ?_).bind
      fun _ => triple_pure fun _ h => h
  · rintro c plugins node ⟨hchecks, hc⟩ hcall
    -- the image publishers are made one after the other, so what each finds is settled beforehand
    have hstart : Furnished w.ros config n₀ [] c.node :=
      (furnished_start config hnew).keep hc.node (by simp)
    obtain ⟨hvalue, -⟩ := (publishers_settle hros hstart _).sound plugins node hcall
    obtain ⟨qualities, hqualities, -⟩ := Option.map_eq_some_iff.mp hvalue
    refine ⟨⟨hchecks, fun before cameraId rest hsplit => ?_⟩, hc.starts, hc.env⟩
    obtain ⟨quality, hquality, -⟩ := settledAll_eq_some hqualities before cameraId rest hsplit
    exact ⟨quality, hquality⟩
  · rintro c e node ⟨-, hc⟩ hcall
    refine ⟨hc.starts, fun ⟨_, htransports, hplain⟩ => ?_⟩
    have hstart : Furnished w.ros config n₀ [] c.node :=
      (furnished_start config hnew).keep hc.node (by simp)
    obtain ⟨qualities, hqualities⟩ : ∃ qualities, settledAll w.ros config n₀ [] _ = _ :=
      exists_settledAll htransports
    have hsettles : Settles _ (createImagePublishers w.ros w.codec config
        (enabledCameras config.options.cameraMask) c.node) _ _ := publishers_settle hros hstart _
    obtain ⟨node', hreturns⟩ := hsettles.returns hplain _
      (congrArg (Option.map (List.map (Option.map newPlugin))) hqualities)
    cases hreturns.symm.trans hcall

theorem triple_startCameraPublisher {config : Config}
    (hchecked : publisherChecks config = .ok ()) (htransports : Transports w.ros config n₀)
    (hros : Lawful w.ros) :
    Triple (fun c => c.starts = starts ∧ c.env = env) (startCameraPublisher w config)
      (fun _ => CameraStarted w n₀ env starts config)
      (fun _ c => (c.starts = starts ∨ CameraStarted w n₀ env starts config c) ∧
        ¬ (validateCameraOptions config.options = .ok () ∧ w.Calm)) := by
  rw [startCameraPublisher]
  refine (triple_liftExcept (Q := fun _ c => validateCameraOptions config.options = .ok () ∧
    c.starts = starts ∧ c.env = env) (fun _ hvalid c hc => ⟨hvalid, hc⟩)
      fun _ hvalid c hc => ⟨.inl hc.1, fun h => (by cases hvalid.symm.trans h.1)⟩).bind
        fun _ => ?_
  -- three stages may throw before the core is started: the options and the two calls of `setenv`
  refine (triple_onEnvironment (Q := fun c => validateCameraOptions config.options = .ok () ∧
    c.starts = starts ∧ configureSc132TriggerMode w.refused env config.options = .ok c.env)
      ?_ ?_).bind fun _ => ?_
  · rintro c env₁ ⟨hvalid, hstarts, rfl⟩ htrigger
    exact ⟨hvalid, hstarts, htrigger⟩
  · rintro e c ⟨-, hstarts, -⟩ htrigger
    refine ⟨.inl hstarts, fun ⟨_, hcalm⟩ => ?_⟩
    have hok : configureSc132TriggerMode w.refused c.env config.options = .ok _ :=
      triggerMode_eq_ok.mpr ⟨hcalm.refused _, rfl⟩
    cases hok.symm.trans htrigger
  refine (triple_onEnvironment (Q := fun c => validateCameraOptions config.options = .ok () ∧
    c.starts = starts ∧ ∃ env₁, configureSc132TriggerMode w.refused env config.options = .ok env₁ ∧
      configureSc132SensorProfile w.refused env₁ config.options = .ok c.env) ?_ ?_).bind fun _ => ?_
  · rintro c env₂ ⟨hvalid, hstarts, htrigger⟩ hprofile
    exact ⟨hvalid, hstarts, c.env, htrigger, hprofile⟩
  · rintro e c ⟨-, hstarts, -⟩ hprofile
    refine ⟨.inl hstarts, fun ⟨_, hcalm⟩ => ?_⟩
    have hok : configureSc132SensorProfile w.refused c.env config.options = .ok _ :=
      sensorProfile_eq_ok.mpr ⟨fun _ => hcalm.refused _, rfl⟩
    cases hok.symm.trans hprofile
  -- from here on the core has been started, whatever comes after
  refine Triple.bind (R := fun _ => CameraStarted w n₀ env starts config) ?_ fun _ => ?_
  · rw [startCore]
    refine (triple_modify (Q := fun _ => CameraStarted w n₀ env starts config) ?_).bind fun _ => ?_
    · rintro c ⟨hvalid, hstarts, henv⟩
      exact ⟨hchecked, htransports, hvalid, henv, by rw [hstarts]⟩
    · refine .ite (fun hfails => triple_throw fun c hc => ⟨.inr hc, fun ⟨_, hcalm⟩ => ?_⟩)
        fun _ => triple_pure fun _ h => h
      rw [hcalm.startReturns] at hfails
      cases hfails
  · rw [startTimer]
    refine .ite (fun _ => triple_onNode (fun c _ node h _ => ?_) fun c e node _ hcall => ?_)
      fun _ => triple_pure fun _ h => h
    · exact ⟨h.checked, h.transports, h.valid, h.env, h.starts⟩
    · obtain ⟨node', hreturns, -⟩ := hros.createWallTimer config.rateLogPeriodMs c.node
      cases hreturns.symm.trans hcall

structure CameraFine (w : Surroundings N) (n : SensorNode) (n₀ : N) (config : Config) : Prop where
  load : loadCameraConfig n = .ok config
  checked : publisherChecks config = .ok ()
  transports : Transports w.ros config n₀
  plain : Each config (Plain w.ros config n₀)
  valid : validateCameraOptions config.options = .ok ()

theorem triple_setUpCamera (hros : Lawful w.ros) (hnew : Fresh w.ros n₀) :
    Triple (Standing w n₀ env starts) (setUpCamera w n)
      (fun _ c => ∃ config, loadCameraConfig n = .ok config ∧
        CameraStarted w n₀ env starts config c)
      (fun _ c => (c.starts = starts ∨ ∃ config, loadCameraConfig n = .ok config ∧
          CameraStarted w n₀ env starts config c) ∧
        ¬ (w.Calm ∧ ∃ config, CameraFine w n n₀ config)) := by
  rw [setUpCamera]
  refine (triple_liftExcept (Q := fun config c => loadCameraConfig n = .ok config ∧
    Standing w n₀ env starts c) (fun config hload c hc => ⟨hload, hc⟩)
      fun e hload c hc => ⟨.inl hc.starts, fun ⟨_, config, h⟩ =>
        (by cases hload.symm.trans h.load)⟩).bind fun config => ?_
  rintro c ⟨hload, hc⟩
  have hsame : ∀ {config'}, CameraFine w n n₀ config' → CameraFine w n n₀ config := by
    intro config' h
    obtain rfl := Except.ok.inj (h.load.symm.trans hload)
    exact h
  refine Triple.bind ((triple_cameraPublisher hros hnew config).post (fun _ _ h => h)
    fun _ c h => ⟨.inl h.1, fun ⟨_, config', hfine⟩ => h.2 ⟨(hsame hfine).checked,
      (hsame hfine).transports, (hsame hfine).plain⟩⟩) (fun _ => ?_) c hc
  rintro c ⟨⟨hchecked, htransports⟩, hc⟩
  refine (triple_startCameraPublisher hchecked htransports hros).post
    (fun _ _ h => ⟨config, hload, h⟩) (fun _ _ h => ⟨?_, fun ⟨hcalm, config', hfine⟩ => ?_⟩) c hc
  · exact h.1.imp_right fun h => ⟨config, hload, h⟩
  · exact h.2 ⟨(hsame hfine).valid, hcalm⟩

def imuStarts (n : SensorNode) (enableImu : Bool) : List CoreStart :=
  if enableImu then
    match loadImuConfig n with
    | .ok config => [.imu (imuCoreConfig config) config.publishTemperature]
    | .error _ => []
  else []

theorem imuStarts_of_load {config : ImuConfig} (h : loadImuConfig n = .ok config) :
    imuStarts n true = [.imu (imuCoreConfig config) config.publishTemperature] := by
  rw [imuStarts, if_pos rfl, h]

theorem imuStarts_of_error (h : ∀ config, loadImuConfig n ≠ .ok config) : imuStarts n true = [] := by
  rw [imuStarts, if_pos rfl]
  cases hload : loadImuConfig n with
  | ok config => exact absurd hload (h config)
  | error e => rfl

structure Fine (w : Surroundings N) (n : SensorNode) (n₀ : N) (enableImu enableCamera : Bool) :
    Prop where
  imu : enableImu = true → ∃ config, loadImuConfig n = .ok config
  camera : enableCamera = true → ∃ config, CameraFine w n n₀ config

def CameraReached (w : Surroundings N) (n : SensorNode) (n₀ : N) (env : Environment)
    (enableImu : Bool) (c : Construction N) : Prop :=
  (enableImu = true → ∃ config, loadImuConfig n = .ok config) ∧
    ∃ config, loadCameraConfig n = .ok config ∧
      CameraStarted w n₀ env (imuStarts n enableImu) config c

theorem triple_imuPart (hros : Lawful w.ros)
    (hrates : n.rateMetricsEnabled = true → n.rateLogPeriodMs ≠ 0) (enableImu : Bool) :
    Triple (Standing w n₀ env []) (if enableImu then setUpImu w n else pure ())
      (fun _ c => (enableImu = true → ∃ config, loadImuConfig n = .ok config) ∧
        Standing w n₀ env (imuStarts n enableImu) c)
      (fun _ c => Standing w n₀ env (imuStarts n enableImu) c ∧
        ¬ (w.Calm ∧ (enableImu = true → ∃ config, loadImuConfig n = .ok config))) := by
  cases enableImu with
  | false => exact triple_pure fun c hc => ⟨fun h => (by cases h), hc⟩
  | true =>
    have himu : Triple (Standing w n₀ env []) (setUpImu w n) _ _ := triple_setUpImu hros hrates
    refine himu.post (fun _ c h => ?_) fun _ c h => ?_
    · obtain ⟨config, hload, hc⟩ := h
      exact ⟨fun _ => ⟨config, hload⟩, (imuStarts_of_load hload).symm ▸ hc⟩
    · rcases h with ⟨hc, hnone⟩ | ⟨⟨config, hload, hc⟩, hcalm⟩
      · refine ⟨(imuStarts_of_error hnone).symm ▸ hc, fun h => ?_⟩
        obtain ⟨config, hload⟩ := h.2 rfl
        exact hnone config hload
      · exact ⟨(imuStarts_of_load hload).symm ▸ hc, fun h => hcalm h.1⟩

theorem triple_startEnabledPublishers (hros : Lawful w.ros) (hnew : Fresh w.ros n₀)
    (hrates : n.rateMetricsEnabled = true → n.rateLogPeriodMs ≠ 0) (enableImu enableCamera : Bool) :
    Triple (Standing w n₀ env []) (startEnabledPublishers w n enableImu enableCamera)
      (fun _ c => if enableCamera then CameraReached w n n₀ env enableImu c else
        (enableImu = true → ∃ config, loadImuConfig n = .ok config) ∧
          c.starts = imuStarts n enableImu ∧ c.env = env)
      (fun _ c => (c.starts = imuStarts n enableImu ∧ (enableCamera = false → c.env = env) ∨
          enableCamera = true ∧ CameraReached w n n₀ env enableImu c) ∧
        ¬ (w.Calm ∧ Fine w n n₀ enableImu enableCamera)) := by
  have hparts : startEnabledPublishers w n enableImu enableCamera =
      ((if enableImu then setUpImu w n else pure ()) >>= fun _ =>
        if enableCamera then setUpCamera w n else pure ()) := by
    cases enableImu <;> rfl
  have himu : Triple (Standing w n₀ env []) (if enableImu then setUpImu w n else pure ()) _ _ :=
    triple_imuPart hros hrates enableImu
  rw [hparts]
  refine (himu.post (fun _ _ h => h) fun _ c h => ⟨.inl ⟨h.1.starts, fun _ => h.1.env⟩,
    fun hfine => h.2 ⟨hfine.1, hfine.2.imu⟩⟩).bind fun _ => ?_
  cases enableCamera with
  | false => exact triple_pure fun c hc => ⟨hc.1, hc.2.starts, hc.2.env⟩
  | true =>
    rintro c ⟨himu, hc⟩
    refine (triple_setUpCamera hros hnew).post (fun _ c h => ?_) (fun _ c h => ?_) c hc
    · exact ⟨himu, h⟩
    · refine ⟨h.1.imp (fun hs => ⟨hs, fun hoff => (by cases hoff)⟩) fun hcamera =>
        ⟨rfl, himu, hcamera⟩, fun hfine => h.2 ⟨hfine.1, hfine.2.camera rfl⟩⟩

end Parts

/-! ### The constructor as a whole -/

structure ImuDelivers (v : ImuValues) (config : Imu.CoreConfig) : Prop where
  sampleRateHz : (config.sampleRateHz.toNat : Int) = v.sampleRateHz
  fifoWatermarkSamples : config.fifoWatermarkSamples = 1
  readMode : config.readMode = readModeSensorTimestampFifo

def CoreStart.isImu : CoreStart → Bool
  | .imu .. => true
  | .camera .. => false

section Whole
variable {N : Type}

/-- How far the constructor has got, whether or not it goes through. -/
structure Started (node : SensorNode) (runId : Option (List UInt8)) (env : Environment)
    (c : Construction N) : Prop where
  /-- Each core is started once, and the IMU before the camera. -/
  order : c.starts.Pairwise fun first second => first.isImu = true ∧ second.isImu = false
  /-- Nothing but the rates and its own parameters decides whether the IMU is started. -/
  imuStarted : (∃ start ∈ c.starts, start.isImu = true) ↔
    node.declareBool "enable_imu" true = true ∧ SupportedRates (node.suppliedRates runId) ∧
      SupportedImu node.suppliedImu
  imu : ∀ config publishTemperature, .imu config publishTemperature ∈ c.starts →
    ImuDelivers node.suppliedImu config ∧
      config.rateMetricsEnabled = node.loadRateMetricsEnabled ∧
      publishTemperature = node.declareBool "imu.publish_temperature" true
  camera : ∀ config publishCameraInfo, .camera config publishCameraInfo ∈ c.starts →
    node.declareBool "enable_camera" true = true ∧ SupportedNode node runId ∧
      Delivers node.supplied.narrowed config ∧
      config.rateMetricsEnabled = node.loadRateMetricsEnabled ∧
      publishCameraInfo = node.declareBool "camera.publish_camera_info" true ∧
      Prepared node.supplied.narrowed env c.env
  untouched : node.declareBool "enable_camera" true = false → c.env = env

def TransportsFine (ros : Ros N) (node : SensorNode) (n₀ : N) : Prop :=
  ∀ config, Carries node.supplied.narrowed config → Transports ros config n₀

def TransportsPlain (ros : Ros N) (node : SensorNode) (n₀ : N) : Prop :=
  ∀ config, Carries node.supplied.narrowed config → Each config (Plain ros config n₀)

/-- The constructor accepts the supported parameters and no others, and starts the cores with
what they say. -/
structure Constructs (w : Surroundings N) (node : SensorNode) (runId : Option (List UInt8))
    (n₀ : N) (env : Environment) (r : EStateM.Result Error (Construction N) Unit) : Prop where
  accepted : ∀ c, r = .ok () c → SupportedNode node runId ∧
    (node.declareBool "enable_camera" true = true → TransportsFine w.ros node n₀) ∧
    (node.declareBool "enable_imu" true = true → ∃ start ∈ c.starts, start.isImu = true) ∧
    (node.declareBool "enable_camera" true = true → ∃ start ∈ c.starts, start.isImu = false)
  completes : w.Calm → SupportedNode node runId →
    (node.declareBool "enable_camera" true = true →
      TransportsFine w.ros node n₀ ∧ TransportsPlain w.ros node n₀) → ∃ c, r = .ok () c
  started : Started node runId env (final r)

variable {w : Surroundings N} {node n : SensorNode} {runId : Option (List UInt8)} {n₀ : N}
  {env : Environment} {config config' : Config} {v : CameraValues}

theorem loadRates_positive (h : node.loadRates runId = .ok n) :
    n.rateMetricsEnabled = true → n.rateLogPeriodMs ≠ 0 := by
  obtain ⟨hsupported, hperiod, hn⟩ := loadRates_eq_ok.mp h
  intro henabled hzero
  rw [hn] at henabled
  exact hsupported.positive henabled (hperiod.symm.trans (toNat_eq_zero.mp hzero))

theorem loadRates_same (h : node.loadRates runId = .ok n) : n.supplied = node.supplied ∧
    n.suppliedImu = node.suppliedImu ∧ n.rateMetricsEnabled = node.loadRateMetricsEnabled ∧
    n.booleans = node.booleans := by
  obtain ⟨-, -, hn⟩ := loadRates_eq_ok.mp h
  rw [hn]
  exact ⟨rfl, rfl, rfl, rfl⟩

theorem exists_loadImuConfig : (∃ config, loadImuConfig n = .ok config) ↔
    SupportedImu n.suppliedImu := by
  refine ⟨fun ⟨config, h⟩ => (loadImuConfig_eq_ok.mp h).1, fun h => ?_⟩
  have hwide : ∃ rate, n.declareUint32 "imu.sample_rate_hz" 1000 = .ok rate := by
    apply exists_declareUint32.mpr
    have hrate := h.sampleRateHz
    simp only [SensorNode.suppliedImu, List.mem_cons, List.not_mem_nil, or_false] at hrate
    change 0 ≤ (n.integer "imu.sample_rate_hz" 1000).toInt ∧
      (n.integer "imu.sample_rate_hz" 1000).toInt < 2 ^ 32
    omega
  obtain ⟨rate, hrate⟩ := hwide
  exact ⟨⟨rate, 1, n.declareString "imu.frame_id" "robobaton_imu_link",
    n.declareBool "imu.publish_temperature" true, n.rateMetricsEnabled, n.rateLogPeriodMs,
    n.rateRunId⟩, loadImuConfig_eq_ok.mpr ⟨h, declareUint32_eq_ok.mp hrate, rfl⟩⟩

theorem Carries.transports (h : Carries v config) (h' : Carries v config') :
    config.options.cameraMask = config'.options.cameraMask ∧
      config.publishCompressedImage = config'.publishCompressedImage ∧
      config.compressedJpegQuality = config'.compressedJpegQuality := by
  refine ⟨UInt32.toNat_inj.mp ?_, ?_, Int32.toInt_inj.mp ?_⟩
  · exact Int.ofNat_inj.mp (h.cameraMask.trans h'.cameraMask.symm)
  · exact h.publishCompressedImage.trans h'.publishCompressedImage.symm
  · exact h.compressedJpegQuality.trans h'.compressedJpegQuality.symm

theorem transports_congr {ros : Ros N} (h : Carries v config) (h' : Carries v config')
    (ht : Transports ros config n₀) : Transports ros config' n₀ := by
  obtain ⟨hmask, hpublish, hquality⟩ := h.transports h'
  simpa only [Transports, Each, settled, pluginsOf, qualityOf, hmask, hpublish, hquality] using ht

theorem CameraStarted.delivered {starts : List CoreStart} {c : Construction N}
    (hrates : n.rateMetricsEnabled = true → n.rateLogPeriodMs ≠ 0)
    (hload : loadCameraConfig n = .ok config) (h : CameraStarted w n₀ env starts config c) :
    Supported n.supplied.narrowed ∧ Carries n.supplied.narrowed config ∧
      config.rateMetricsEnabled = n.rateMetricsEnabled ∧ Prepared n.supplied.narrowed env c.env := by
  obtain ⟨hsupported, hcarries, henabled, -⟩ :=
    (acceptCamera_iff hrates).mp (acceptCamera_parts.mpr ⟨hload, h.checked, h.valid⟩)
  obtain ⟨env₁, htrigger, hprofile⟩ := h.env
  exact ⟨hsupported, hcarries, henabled, prepared hsupported hcarries htrigger hprofile⟩

theorem mem_imuStarts {start : CoreStart} {enableImu : Bool} (h : start ∈ imuStarts n enableImu) :
    enableImu = true ∧ ∃ config, loadImuConfig n = .ok config ∧
      start = .imu (imuCoreConfig config) config.publishTemperature := by
  cases enableImu with
  | false => cases h
  | true =>
    rw [imuStarts, if_pos rfl] at h
    cases hload : loadImuConfig n with
    | ok config =>
      rw [hload] at h
      exact ⟨rfl, config, rfl, List.mem_singleton.mp h⟩
    | error e =>
      rw [hload] at h
      cases h

theorem exists_imuStarts {enableImu : Bool} : (∃ start ∈ imuStarts n enableImu,
    start.isImu = true) ↔ enableImu = true ∧ SupportedImu n.suppliedImu := by
  rw [← exists_loadImuConfig]
  constructor
  · rintro ⟨start, hmem, -⟩
    obtain ⟨henable, config, hload, -⟩ := mem_imuStarts hmem
    exact ⟨henable, config, hload⟩
  · rintro ⟨rfl, config, hload⟩
    rw [imuStarts_of_load hload]
    exact ⟨_, List.mem_singleton_self _, rfl⟩

theorem imuStarts_pairwise (n : SensorNode) (enableImu : Bool) :
    (imuStarts n enableImu).Pairwise fun first second =>
      first.isImu = true ∧ second.isImu = false := by
  rw [imuStarts]
  split
  · split
    · exact List.pairwise_singleton ..
    · exact .nil
  · exact .nil

theorem imu_delivers (hrates : node.loadRates runId = .ok n) {enableImu : Bool}
    {config : Imu.CoreConfig} {publishTemperature : Bool}
    (h : .imu config publishTemperature ∈ imuStarts n enableImu) :
    ImuDelivers node.suppliedImu config ∧
      config.rateMetricsEnabled = node.loadRateMetricsEnabled ∧
      publishTemperature = node.declareBool "imu.publish_temperature" true := by
  obtain ⟨-, imuConfig, hload, hstart⟩ := mem_imuStarts h
  obtain ⟨rfl, rfl⟩ := CoreStart.imu.inj hstart
  obtain ⟨-, himu, henabled, hbooleans⟩ := loadRates_same hrates
  obtain ⟨-, hrate, hconfig⟩ := loadImuConfig_eq_ok.mp hload
  rw [← himu, ← henabled, SensorNode.declareBool, ← hbooleans]
  refine ⟨⟨hrate, ?_, rfl⟩, ?_, ?_⟩ <;> rw [hconfig] <;> rfl

theorem started_before (hrates : node.loadRates runId = .ok n) {c : Construction N}
    (hstarts : c.starts = imuStarts n (node.declareBool "enable_imu" true))
    (henv : node.declareBool "enable_camera" true = false → c.env = env) :
    Started node runId env c where
  order := hstarts ▸ imuStarts_pairwise n _
  imuStarted := by
    rw [hstarts, exists_imuStarts, (loadRates_same hrates).2.1]
    exact and_congr_right fun _ => (and_iff_right (loadRates_eq_ok.mp hrates).1).symm
  imu config publishTemperature hmem := by
    rw [hstarts] at hmem
    exact imu_delivers hrates hmem
  camera config publishCameraInfo hmem := by
    rw [hstarts] at hmem
    obtain ⟨-, _, -, hstart⟩ := mem_imuStarts hmem
    cases hstart
  untouched := henv

theorem CameraReached.supported (hrates : node.loadRates runId = .ok n) {enableImu : Bool}
    {c : Construction N} (h : CameraReached w n n₀ env enableImu c) :
    SupportedRates (node.suppliedRates runId) ∧
      (enableImu = true → SupportedImu node.suppliedImu) ∧ Supported node.supplied.narrowed := by
  obtain ⟨himu, config, hload, hstarted⟩ := h
  obtain ⟨hsupplied, hsuppliedImu, -⟩ := loadRates_same hrates
  refine ⟨(loadRates_eq_ok.mp hrates).1, fun he => ?_, ?_⟩
  · exact hsuppliedImu ▸ exists_loadImuConfig.mp (himu he)
  · exact hsupplied ▸ (hstarted.delivered (loadRates_positive hrates) hload).1

theorem started_camera (hrates : node.loadRates runId = .ok n) {c : Construction N}
    (henable : node.declareBool "enable_camera" true = true)
    (h : CameraReached w n n₀ env (node.declareBool "enable_imu" true) c) :
    Started node runId env c := by
  obtain ⟨hrates', himu', hcamera'⟩ := h.supported hrates
  obtain ⟨himu, config, hload, hstarted⟩ := h
  obtain ⟨hsupplied, hsuppliedImu, hmetrics, -⟩ := loadRates_same hrates
  have hmem : ∀ start, start ∈ c.starts ↔
      start ∈ imuStarts n (node.declareBool "enable_imu" true) ∨
        start = .camera (cameraCoreConfig config) config.publishCameraInfo := fun start => by
    rw [hstarted.starts, List.mem_append, List.mem_singleton]
  refine ⟨?_, ?_, fun config' publishTemperature h => ?_, fun config' publishCameraInfo h => ?_,
    fun hoff => ?_⟩
  · rw [hstarted.starts, List.pairwise_append]
    -- the camera core comes last, after the IMU core if there is one
    refine ⟨imuStarts_pairwise n _, List.pairwise_singleton .., fun first hfirst second hsecond => ?_⟩
    obtain ⟨-, imuConfig, -, rfl⟩ := mem_imuStarts hfirst
    rw [List.mem_singleton.mp hsecond]
    exact ⟨rfl, rfl⟩
  · have hsame : (∃ start ∈ c.starts, start.isImu = true) ↔
        ∃ start ∈ imuStarts n (node.declareBool "enable_imu" true), start.isImu = true := by
      refine exists_congr fun start => and_congr_left fun hkind => ?_
      rw [hmem]
      refine or_iff_left fun hcamera => ?_
      rw [hcamera] at hkind
      cases hkind
    rw [hsame, exists_imuStarts, hsuppliedImu]
    exact and_congr_right fun _ => (and_iff_right hrates').symm
  · exact imu_delivers hrates (((hmem _).mp h).resolve_right (by simp))
  · have hcamera := ((hmem _).mp h).resolve_left fun himu => by
      obtain ⟨-, _, -, hstart⟩ := mem_imuStarts himu
      cases hstart
    obtain ⟨rfl, rfl⟩ := CoreStart.camera.inj hcamera
    obtain ⟨hsupported, hcarries, henabled, hprepared⟩ :=
      hstarted.delivered (loadRates_positive hrates) hload
    rw [hsupplied] at hsupported hcarries hprepared
    exact ⟨henable, ⟨hrates', himu', fun _ => hcamera'⟩, delivers hsupported hcarries,
      henabled.trans hmetrics, hcarries.publishCameraInfo, hprepared⟩
  · cases henable.symm.trans hoff

theorem constructs_ok (hrates : node.loadRates runId = .ok n) {c : Construction N}
    (h : if node.declareBool "enable_camera" true then
        CameraReached w n n₀ env (node.declareBool "enable_imu" true) c
      else (node.declareBool "enable_imu" true = true → ∃ config, loadImuConfig n = .ok config) ∧
        c.starts = imuStarts n (node.declareBool "enable_imu" true) ∧ c.env = env) :
    Constructs w node runId n₀ env (.ok () c) := by
  obtain ⟨hsupplied, hsuppliedImu, -⟩ := loadRates_same hrates
  cases henable : node.declareBool "enable_camera" true with
  | true =>
    rw [if_pos henable] at h
    have hstarted := started_camera hrates henable h
    obtain ⟨hrates', himu', hcamera'⟩ := h.supported hrates
    obtain ⟨-, config, hload, hcamera⟩ := h
    refine ⟨fun c' hc' => ?_, fun _ _ _ => ⟨c, rfl⟩, hstarted⟩
    obtain ⟨-, rfl⟩ := EStateM.Result.ok.inj hc'
    refine ⟨⟨hrates', himu', fun _ => hcamera'⟩, fun _ config' hcarries' => ?_, fun he => ?_,
      fun _ => ⟨.camera (cameraCoreConfig config) config.publishCameraInfo, ?_, rfl⟩⟩
    · have hcarries := (hcamera.delivered (loadRates_positive hrates) hload).2.1
      rw [hsupplied] at hcarries
      exact transports_congr hcarries hcarries' hcamera.transports
    · exact hstarted.imuStarted.mpr ⟨he, hrates', himu' he⟩
    · rw [hcamera.starts]
      exact List.mem_append_right _ (List.mem_singleton_self _)
  | false =>
    rw [henable, if_neg Bool.false_ne_true] at h
    obtain ⟨himu, hstarts, henv⟩ := h
    have hstarted := started_before hrates hstarts fun _ => henv
    have hrates' := (loadRates_eq_ok.mp hrates).1
    have himu' : node.declareBool "enable_imu" true = true → SupportedImu node.suppliedImu :=
      fun he => hsuppliedImu ▸ exists_loadImuConfig.mp (himu he)
    refine ⟨fun c' hc' => ?_, fun _ _ _ => ⟨c, rfl⟩, hstarted⟩
    obtain ⟨-, rfl⟩ := EStateM.Result.ok.inj hc'
    have hoff : ¬ node.declareBool "enable_camera" true = true := by simp [henable]
    exact ⟨⟨hrates', himu', fun he => absurd he hoff⟩, fun he => absurd he hoff,
      fun he => hstarted.imuStarted.mpr ⟨he, hrates', himu' he⟩, fun he => absurd he hoff⟩

theorem sensorNode_eq (hrates : node.loadRates runId = .ok n) (c₀ : Construction N) :
    sensorNode w node runId c₀ = startEnabledPublishers w n (node.declareBool "enable_imu" true)
      (node.declareBool "enable_camera" true) c₀ := by
  rw [sensorNode, hrates]
  rfl

theorem sensorNode_unrated {e : Error} (hrates : node.loadRates runId = .error e)
    (c₀ : Construction N) : sensorNode w node runId c₀ = .error e c₀ := by
  rw [sensorNode, hrates]
  rfl

theorem constructed (hros : Lawful w.ros) (hnew : Fresh w.ros n₀) {c : Construction N}
    (h : sensorNode w node runId ⟨n₀, env, []⟩ = .ok () c) :
    Constructs w node runId n₀ env (.ok () c) := by
  cases hrates : node.loadRates runId with
  | error e =>
    rw [sensorNode_unrated hrates] at h
    cases h
  | ok n =>
    have hends := triple_startEnabledPublishers hros hnew (loadRates_positive hrates)
      (node.declareBool "enable_imu" true) (node.declareBool "enable_camera" true)
      ⟨n₀, env, []⟩ ⟨rfl, rfl, .refl n₀⟩
    rw [← sensorNode_eq hrates, h] at hends
    exact constructs_ok hrates hends

end Whole

/-! ### A run of the constructor -/

def plainSurroundings : Surroundings ParameterNode :=
  ⟨ParameterNode.ros, willing, fun _ => false, fun _ => true⟩

def plainNode : ParameterNode := ⟨"/", fun _ => none, fun _ => none⟩

theorem fresh_plainNode : Fresh ParameterNode.ros plainNode := fun _ => ⟨rfl, rfl⟩

def plainConstruction : Construction ParameterNode := ⟨plainNode, fun _ => none, []⟩

end RoboBaton.Node
