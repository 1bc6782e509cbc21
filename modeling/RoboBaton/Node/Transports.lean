import RoboBaton.Node.Middleware
import RoboBaton.Node.Settings

/-! How the quality of the compressed images gets from the parameters of the node to the encoders.
The camera publisher leaves it in a parameter of image_transport for each camera; the plugin finds
it there under a name that it makes up once more. -/

namespace RoboBaton.Node
open Nv12 Throwing

/-! ### The camera publisher -/

def cameraTopic (cameraId : UInt32) (suffix : String) : String :=
  "/robobaton/cam" ++ toString cameraId ++ suffix

def kImageTopicSuffix : String := "/image_raw"

def kCameraInfoTopicSuffix : String := "/camera_info"

def enabledPlugins (compressedEnabled : Bool) : List String :=
  kRaw :: if compressedEnabled then [kCompressed] else []

section Transport
variable {N : Type} (ros : Ros N)

def imageTransportParameterBase (node : N) (baseTopic : String) : String :=
  dotted (withoutNamespace (ros.effectiveNamespace node).length
    (ros.expandTopicOrServiceName node baseTopic))

def declareOrSetImageTransportParameter (name : String) (value : ParameterValue) :
    EStateM Error N Unit := do
  let node ← get
  if !ros.hasParameter node name then
    let _ ← (ros.declareParameter name value none).adaptExcept DeclareException.error
  else
    let result ← ros.setParameter name value
    if !result.successful then
      throw (.invalidArgument
        ("failed to set image_transport parameter " ++ name ++ ": " ++ result.reason))

def configureImageTransportPublisher (baseTopic : String) (compressedEnabled : Bool)
    (jpegQuality : Int32) : EStateM Error N Unit := do
  let parameterBase := imageTransportParameterBase ros (← get) baseTopic
  declareOrSetImageTransportParameter ros (parameterBase ++ ".enable_pub_plugins")
    (.texts (enabledPlugins compressedEnabled))
  if compressedEnabled then
    declareOrSetImageTransportParameter ros (parameterBase ++ ".jpeg_quality")
      (.integer jpegQuality.toInt64)

/-! ### The plugin -/

def kDefaultJpegQuality : Int64 := 80

/-- The `try` block: a parameter that was declared before is taken as it is. -/
def declareOrGetParameter (name : String) (defaultValue : ParameterValue)
    (range : Option (Int64 × Int64)) : EStateM Error N ParameterValue := fun node =>
  match ros.declareParameter name defaultValue range node with
  | .ok value node => .ok value node
  | .error (.alreadyDeclared _) node =>
    match ros.getParameter node name with
    | .ok value => .ok value node
    | .error e => .error e node
  | .error (.other e) node => .error e node

def declareJpegQuality (baseTopic : String) : EStateM Error N Int32 := do
  let name := ros.parameterBaseName (← get) baseTopic ++ ".jpeg_quality"
  let value ← declareOrGetParameter ros name (.integer kDefaultJpegQuality) (some (1, 100))
  let value ← MonadExcept.ofExcept (ros.asInt value)
  if value < 1 || value > 100 then
    throw (.invalidArgument "compressed jpeg_quality must be between 1 and 100")
  return value.toInt32

def advertise (hb : Codec) (baseTopic : String) : EStateM Error N Nv12CompressedPublisher := do
  ros.advertiseBase baseTopic
  let quality ← declareJpegQuality ros baseTopic
  match advertiseImpl hb quality ⟨none, []⟩ with
  | .ok _ plugin => return plugin
  | .error e _ => throw e

/-! ### The image publishers -/

/-- One round of the loop over the cameras in the constructor of `CameraPublisher::Impl`. -/
def createPublishers (hb : Codec) (config : Config) (cameraId : UInt32) :
    EStateM Error N (Option Nv12CompressedPublisher) := do
  let imageTopic := cameraTopic cameraId kImageTopicSuffix
  configureImageTransportPublisher ros imageTopic config.publishCompressedImage
    config.compressedJpegQuality
  let plugin ← ros.createImagePublisher imageTopic (advertise ros hb)
  if config.publishCameraInfo then
    ros.createPublisher (cameraTopic cameraId kCameraInfoTopicSuffix)
  return plugin

def createImagePublishers (hb : Codec) (config : Config) :
    List UInt32 → EStateM Error N (List (Option Nv12CompressedPublisher))
  | [] => return []
  | cameraId :: rest => do
    let plugin ← createPublishers ros hb config cameraId
    let plugins ← createImagePublishers hb config rest
    return plugin :: plugins

end Transport

/-- The cameras of the mask, in the order of the loop. -/
def enabledCameras (cameraMask : UInt32) : List UInt32 :=
  ((List.range kMaxChannels).map UInt32.ofNat).filter fun cameraId =>
    (cameraMask &&& (1 <<< cameraId)) != 0

/-! ### One call -/

section Calls
variable {N : Type} {ros : Ros N} {node : N} {name topic : String} {hb : Codec} {safe : Prop}

/-- What a parameter comes to: an override counts where the name is declared first. -/
def valueOf (ros : Ros N) (node : N) (first : Bool) (name : String) (value : ParameterValue) :
    ParameterValue :=
  if first then (ros.overrides node name).getD value else value

theorem admissible_free {value d : ParameterValue} :
    Admissible value d none ↔ value.sameType d = true := by
  simp [Admissible, inRange]

theorem declareOrSet_settles (hros : Lawful ros) (hname : Transported name) (first : Bool)
    {value : ParameterValue} (hself : value.sameType value = true)
    (hfirst : first = true → ros.parameter node name = none)
    (hagain : first = false → ∃ old, ros.parameter node name = some ⟨old, none⟩ ∧
      value.sameType old = true) :
    Settles safe (declareOrSetImageTransportParameter ros name value node)
      (if (valueOf ros node first name value).sameType value then some () else none)
      (fun node' => ros.parameter node' name =
          some ⟨valueOf ros node first name value, none⟩ ∧ Frame ros [name] node node') := by
  have hget : (get : EStateM Error N N) node = .ok node node := rfl
  rw [declareOrSetImageTransportParameter, bind_of_ok hget, hros.hasParameter]
  cases first with
  | true =>
    -- declared here: an override is what counts
    have hnone := hfirst rfl
    rw [hnone]
    by_cases hsame : (valueOf ros node true name value).sameType value = true
    · obtain ⟨node', hdeclare, hparameter, hframe⟩ :=
        hros.declare_first node name value none hname hnone (admissible_free.mpr hsame)
      rw [if_pos hsame]
      refine .ok (s := node') ?_ ⟨hparameter, hframe⟩
      have hcall : (ros.declareParameter name value none).adaptExcept DeclareException.error node =
          .ok ((ros.overrides node name).getD value) node' := by rw [EStateM.adaptExcept, hdeclare]
      exact bind_of_ok hcall
    · obtain ⟨what, node', hdeclare, -⟩ :=
        hros.declare_refused node name value none hname hnone (admissible_free.not.mpr hsame)
      rw [if_neg hsame]
      have hcall : (ros.declareParameter name value none).adaptExcept DeclareException.error node =
          .error (.runtimeError what) node' := by rw [EStateM.adaptExcept, hdeclare]; rfl
      exact .error (bind_of_error hcall)
  | false =>
    -- declared before: the value is set, and the override no longer counts
    obtain ⟨old, hold, hsame⟩ := hagain rfl
    obtain ⟨reason, node', hset, hparameter, hframe⟩ :=
      hros.set_accepted node name value _ hname hold (admissible_free.mpr hsame)
    rw [hold]
    have hvalue : (valueOf ros node false name value).sameType value = true := hself
    rw [if_pos hvalue]
    exact .ok (bind_of_ok hset) ⟨hparameter, hframe⟩

/-! ### The plugin is advertised -/

def newPlugin (quality : Int32) : Nv12CompressedPublisher := ⟨some ⟨.fresh quality, []⟩, []⟩

def Usable (quality : Int64) : Prop := 1 ≤ quality.toInt ∧ quality.toInt ≤ 100

instance (quality : Int64) : Decidable (Usable quality) := inferInstanceAs (Decidable (_ ∧ _))

theorem usable_iff {value : Int64} : Usable value ↔ (value < 1 || value > 100) = false := by
  rw [Bool.or_eq_false_iff, decide_eq_false_iff_not, decide_eq_false_iff_not,
    Int64.lt_iff_toInt_lt, gt_iff_lt, Int64.lt_iff_toInt_lt]
  show 1 ≤ value.toInt ∧ value.toInt ≤ 100 ↔ ¬value.toInt < 1 ∧ ¬100 < value.toInt
  omega

theorem inRange_iff {value : Int64} : inRange (some (1, 100)) (.integer value) = true ↔
    Usable value := by
  rw [inRange, Bool.and_eq_true, decide_eq_true_iff, decide_eq_true_iff, Int64.le_iff_toInt_le,
    Int64.le_iff_toInt_le]
  rfl

theorem make_encoder {value : Int64} (h : Usable value) :
    x5Nv12JpegEncoder value.toInt32 = .ok (.fresh value.toInt32) := by
  obtain ⟨hlow, hhigh⟩ := h
  have hsmall : value.toInt32.toInt = value.toInt := by
    rw [Int64.toInt_toInt32]
    exact Int.bmod_eq_of_le (by omega) (by omega)
  have hinside : (value.toInt32 < 1 || value.toInt32 > 100) = false := by
    rw [Bool.or_eq_false_iff, decide_eq_false_iff_not, decide_eq_false_iff_not,
      Int32.lt_iff_toInt_lt, gt_iff_lt, Int32.lt_iff_toInt_lt, hsmall]
    show ¬value.toInt < 1 ∧ ¬100 < value.toInt
    omega
  rw [x5Nv12JpegEncoder, hinside]
  rfl

def pluginQuality : ParameterValue → Option Int32
  | .integer value => if Usable value then some value.toInt32 else none
  | _ => none

/-- Whether image_transport goes without a plugin with a useless parameter: `rclcpp` refuses to
declare that, and the plugin refuses one that was declared before. -/
def Ros.goesWithout (ros : Ros N) (before : Bool) : Bool :=
  if before then ros.catchesLogicError else ros.catchesRuntimeError

structure Advertised (ros : Ros N) (before : Bool) (value : ParameterValue) (node' : N)
    (r : EStateM.Result Error N Nv12CompressedPublisher) : Prop where
  usable : ∀ quality, pluginQuality value = some quality → r = .ok (newPlugin quality) node'
  useless : pluginQuality value = none →
    ∃ e, ros.catches e = ros.goesWithout before ∧ r = .error e node'

theorem advertised_of_value (hros : Lawful ros) (before : Bool) {node₁ node' : N} {value : Int64}
    (hbase : ros.advertiseBase topic node = .ok () node₁)
    (hvalue : declareOrGetParameter ros (ros.parameterBaseName node₁ topic ++ ".jpeg_quality")
      (.integer kDefaultJpegQuality) (some (1, 100)) node₁ = .ok (.integer value) node')
    (hbefore : before = true ∨ Usable value) :
    Advertised ros before (.integer value) node' (advertise ros hb topic node) := by
  have hget : (get : EStateM Error N N) node₁ = .ok node₁ node₁ := rfl
  have hint : (MonadExcept.ofExcept (ros.asInt (.integer value)) : EStateM Error N Int64) node' =
      .ok value node' := by
    rw [hros.asInt]
    rfl
  have hquality : declareJpegQuality ros topic node₁ =
      (if value < 1 || value > 100 then
        throw (.invalidArgument "compressed jpeg_quality must be between 1 and 100")
      else pure value.toInt32 : EStateM Error N Int32) node' := by
    rw [declareJpegQuality, bind_of_ok hget, bind_of_ok hvalue, bind_of_ok hint]
    split <;> rfl
  rw [advertise, bind_of_ok hbase]
  by_cases husable : Usable value
  · rw [usable_iff.mp husable, if_neg Bool.false_ne_true] at hquality
    rw [bind_of_ok hquality, advertiseImpl, make_encoder husable]
    refine ⟨fun quality h => ?_, fun h => ?_⟩
    · rw [pluginQuality, if_pos husable] at h
      rw [Option.some.inj h]
      rfl
    · rw [pluginQuality, if_pos husable] at h
      cases h
  · have hlater := hbefore.resolve_right husable
    rw [if_pos (Bool.eq_true_of_not_eq_false (usable_iff.not.mp husable))] at hquality
    rw [bind_of_error hquality]
    refine ⟨fun quality h => ?_, fun _ => ⟨_, ?_, rfl⟩⟩
    · rw [pluginQuality, if_neg husable] at h
      cases h
    · rw [hlater]
      rfl

theorem transported_quality (base : String) : Transported (base ++ ".jpeg_quality") :=
  ⟨base, .inr rfl⟩

theorem transported_plugins (base : String) : Transported (base ++ ".enable_pub_plugins") :=
  ⟨base, .inl rfl⟩

theorem advertise_again (hros : Lawful ros) {value : Int64} {range : Option (Int64 × Int64)}
    (h : ros.parameter node (ros.parameterBaseName node topic ++ ".jpeg_quality") =
      some ⟨.integer value, range⟩) :
    ∃ node', Frame ros [] node node' ∧
      Advertised ros true (.integer value) node' (advertise ros hb topic node) := by
  obtain ⟨node₁, hbase, hframe₁⟩ := hros.advertiseBase topic node
  have hname : ros.parameterBaseName node₁ topic = ros.parameterBaseName node topic := by
    rw [Ros.parameterBaseName, Ros.parameterBaseName, hframe₁.effectiveNamespace]
  have hquality := transported_quality (ros.parameterBaseName node topic)
  have hparameter := (hframe₁.parameter _ hquality List.not_mem_nil).trans h
  obtain ⟨what, node₂, hdeclare, hframe₂⟩ := hros.declare_again node₁ _
    (.integer kDefaultJpegQuality) (some (1, 100)) hquality (by simp [hparameter])
  have hget := hros.getParameter node₂ _ _
    ((hframe₂.parameter _ hquality List.not_mem_nil).trans hparameter)
  refine ⟨node₂, hframe₁.trans hframe₂, advertised_of_value hros true hbase ?_ (.inl rfl)⟩
  rw [hname, declareOrGetParameter, hdeclare]
  simp only [hget]

theorem advertise_first (hros : Lawful ros)
    (h : ros.parameter node (ros.parameterBaseName node topic ++ ".jpeg_quality") = none) :
    ∃ node', Frame ros [ros.parameterBaseName node topic ++ ".jpeg_quality"] node node' ∧
      Advertised ros false
        (valueOf ros node true (ros.parameterBaseName node topic ++ ".jpeg_quality")
          (.integer kDefaultJpegQuality)) node' (advertise ros hb topic node) := by
  obtain ⟨node₁, hbase, hframe₁⟩ := hros.advertiseBase topic node
  have hname : ros.parameterBaseName node₁ topic = ros.parameterBaseName node topic := by
    rw [Ros.parameterBaseName, Ros.parameterBaseName, hframe₁.effectiveNamespace]
  have hquality := transported_quality (ros.parameterBaseName node topic)
  -- only the name matters from here on
  generalize hq : ros.parameterBaseName node topic ++ ".jpeg_quality" = name at *
  have hnone := (hframe₁.parameter name hquality List.not_mem_nil).trans h
  have hvalue : (ros.overrides node₁ name).getD (.integer kDefaultJpegQuality) =
      valueOf ros node true name (.integer kDefaultJpegQuality) := by
    rw [hframe₁.overrides]
    rfl
  by_cases hfits : Admissible (valueOf ros node true name (.integer kDefaultJpegQuality))
      (.integer kDefaultJpegQuality) (some (1, 100))
  · obtain ⟨node₂, hdeclare, -, hframe₂⟩ := hros.declare_first node₁ name _ _ hquality hnone
      (hvalue ▸ hfits)
    rw [hvalue] at hdeclare
    obtain ⟨value, hinteger⟩ : ∃ value,
        valueOf ros node true name (.integer kDefaultJpegQuality) = .integer value := by
      cases hv : valueOf ros node true name (.integer kDefaultJpegQuality) with
      | integer value => exact ⟨value, rfl⟩
      | _ =>
        rw [hv] at hfits
        exact absurd hfits.1 Bool.false_ne_true
    rw [hinteger] at hdeclare hfits ⊢
    refine ⟨node₂, hframe₁.trans hframe₂,
      advertised_of_value hros false hbase ?_ (.inr (inRange_iff.mp hfits.2))⟩
    rw [hname, hq, declareOrGetParameter, hdeclare]
  · obtain ⟨what, node₂, hdeclare, hframe₂⟩ := hros.declare_refused node₁ name _ _ hquality hnone
      (hvalue ▸ hfits)
    have huseless : pluginQuality (valueOf ros node true name (.integer kDefaultJpegQuality)) =
        none := by
      cases hv : valueOf ros node true name (.integer kDefaultJpegQuality) with
      | integer value =>
        rw [hv] at hfits
        exact if_neg fun husable => hfits ⟨rfl, inRange_iff.mpr husable⟩
      | _ => rfl
    have hcall : declareOrGetParameter ros name (.integer kDefaultJpegQuality) (some (1, 100))
        node₁ = .error (.runtimeError what) node₂ := by
      rw [declareOrGetParameter, hdeclare]
    have hget : (get : EStateM Error N N) node₁ = .ok node₁ node₁ := rfl
    have herror : declareJpegQuality ros topic node₁ = .error (.runtimeError what) node₂ := by
      rw [declareJpegQuality, bind_of_ok hget, hname, hq, bind_of_error hcall]
    refine ⟨node₂, (hframe₁.trans hframe₂).mono (by simp), ⟨fun quality hq => ?_, fun _ => ?_⟩⟩
    · rw [huseless] at hq
      cases hq
    · exact ⟨.runtimeError what, rfl, by rw [advertise, bind_of_ok hbase, bind_of_error herror]⟩

end Calls

end RoboBaton.Node
