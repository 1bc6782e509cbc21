import RoboBaton.Library.Throwing
import RoboBaton.Nv12.Publisher

/-! What the publishers use of `rclcpp` and of `image_transport`, which are not part of this
repository: the calls, as functions on the states of a node, and what these libraries promise
about the parameters that the calls declare, set and look up. -/

namespace RoboBaton.Node
open Nv12

/-! ### Parameters -/

inductive ParameterValue
  | integer (value : Int64)
  | texts (values : List String)
  | other
  deriving DecidableEq, Repr

def ParameterValue.sameType : ParameterValue → ParameterValue → Bool
  | .integer _, .integer _ => true
  | .texts _, .texts _ => true
  | _, _ => false

/-- A declared parameter with the `integer_range` of its descriptor. -/
structure Parameter where
  value : ParameterValue
  range : Option (Int64 × Int64)
  deriving DecidableEq, Repr

def inRange : Option (Int64 × Int64) → ParameterValue → Bool
  | some (low, high), .integer value => low ≤ value && value ≤ high
  | _, _ => true

/-- The exceptions of `declare_parameter`, of which one has a class that the code looks for. -/
inductive DeclareException
  | alreadyDeclared (what : String)
  | other (e : Error)
  deriving DecidableEq, Repr

def DeclareException.error : DeclareException → Error
  | .alreadyDeclared what => .runtimeError what
  | .other e => e

structure SetParametersResult where
  successful : Bool
  reason : String
  deriving DecidableEq, Repr

/-! ### Names -/

/-- The rule of image_transport cuts off as many characters as the namespace has. -/
def withoutNamespace (namespaceLength : ℕ) (topic : String) : String :=
  if namespaceLength ≤ topic.length then String.ofList (topic.toList.drop namespaceLength)
  else topic

def dotted (topic : String) : String :=
  let replaced := topic.toList.map fun ch => if ch = '/' then '.' else ch
  String.ofList (if replaced.head? = some '.' then replaced.tail else replaced)

def Transported (name : String) : Prop :=
  ∃ base, name = base ++ ".enable_pub_plugins" ∨ name = base ++ ".jpeg_quality"

def kRaw : String := "image_transport/raw"

def kCompressed : String := "robobaton_4p_ros2_demo/compressed"

/-! ### The calls -/

/-- The calls over the states `N` of a node. The last two fields are not called: they are what a
node knows of its parameters. -/
structure Ros (N : Type) where
  effectiveNamespace : N → String
  /-- For a valid name. -/
  expandTopicOrServiceName : N → String → String
  hasParameter : N → String → Bool
  declareParameter : String → ParameterValue → Option (Int64 × Int64) →
    EStateM DeclareException N ParameterValue
  getParameter : N → String → Except Error ParameterValue
  asInt : ParameterValue → Except Error Int64
  setParameter : String → ParameterValue → EStateM Error N SetParametersResult
  createPublisher : String → EStateM Error N Unit
  createWallTimer : UInt32 → EStateM Error N Unit
  /-- `advertiseImpl` of the base class of the plugin. -/
  advertiseBase : String → EStateM Error N Unit
  /-- `image_transport::create_publisher`, given what the plugin does when it is advertised at a
  topic. The plugin is in the publisher that is returned, or is not. -/
  createImagePublisher : String → (String → EStateM Error N Nv12CompressedPublisher) →
    EStateM Error N (Option Nv12CompressedPublisher)
  /-- Which exceptions of a plugin image_transport catches. -/
  catchesRuntimeError : Bool
  catchesLogicError : Bool
  overrides : N → String → Option ParameterValue
  parameter : N → String → Option Parameter

namespace Ros
variable {N : Type} (ros : Ros N)

def catches : Error → Bool
  | .runtimeError _ | .overflowError _ => ros.catchesRuntimeError
  | .invalidArgument _ | .outOfBounds => ros.catchesLogicError

def parameterBaseName (node : N) (baseTopic : String) : String :=
  dotted (withoutNamespace (ros.effectiveNamespace node).length baseTopic)

def listName (node : N) (baseTopic : String) : String :=
  ros.parameterBaseName node (ros.expandTopicOrServiceName node baseTopic) ++
    ".enable_pub_plugins"

end Ros

/-! ### What the libraries promise -/

section Promises
variable {N : Type} (ros : Ros N)

/-- A call leaves the names as they are, and the parameters that it does not touch. -/
structure Frame (touched : List String) (node node' : N) : Prop where
  effectiveNamespace : ros.effectiveNamespace node' = ros.effectiveNamespace node
  expand : ros.expandTopicOrServiceName node' = ros.expandTopicOrServiceName node
  overrides : ros.overrides node' = ros.overrides node
  parameter : ∀ name, Transported name → name ∉ touched →
    ros.parameter node' name = ros.parameter node name

/-- How image_transport goes through the plugins of the list. It advertises ours once if it is
listed, and goes without it if it catches what that throws. -/
inductive Loaded (plugins : List String) (advertise : EStateM Error N Nv12CompressedPublisher)
    (node : N) : EStateM.Result Error N (Option Nv12CompressedPublisher) → Prop
  | unlisted {node' : N} (hlist : kCompressed ∉ plugins) (hframe : Frame ros [] node node') :
    Loaded plugins advertise node (.ok none node')
  | advertised {node₁ node₂ node' : N} {plugin : Nv12CompressedPublisher}
    (hlist : kCompressed ∈ plugins) (hbefore : Frame ros [] node node₁)
    (hcall : advertise node₁ = .ok plugin node₂) (hafter : Frame ros [] node₂ node') :
    Loaded plugins advertise node (.ok (some plugin) node')
  | caught {node₁ node₂ node' : N} {e : Error}
    (hlist : kCompressed ∈ plugins) (hbefore : Frame ros [] node node₁)
    (hcall : advertise node₁ = .error e node₂) (hcatch : ros.catches e = true)
    (hafter : Frame ros [] node₂ node') : Loaded plugins advertise node (.ok none node')
  | passed {node₁ node₂ node' : N} {e : Error}
    (hlist : kCompressed ∈ plugins) (hbefore : Frame ros [] node node₁)
    (hcall : advertise node₁ = .error e node₂) (hcatch : ros.catches e = false) :
    Loaded plugins advertise node (.error e node')

def Admissible (value d : ParameterValue) (range : Option (Int64 × Int64)) : Prop :=
  value.sameType d = true ∧ inRange range value = true

structure Lawful : Prop where
  hasParameter : ∀ node name, ros.hasParameter node name = (ros.parameter node name).isSome
  /-- The first declaration takes the override, if there is one. -/
  declare_first : ∀ node name d range, Transported name → ros.parameter node name = none →
    Admissible ((ros.overrides node name).getD d) d range →
    ∃ node', ros.declareParameter name d range node =
        .ok ((ros.overrides node name).getD d) node' ∧
      ros.parameter node' name = some ⟨(ros.overrides node name).getD d, range⟩ ∧
      Frame ros [name] node node'
  declare_refused : ∀ node name d range, Transported name → ros.parameter node name = none →
    ¬ Admissible ((ros.overrides node name).getD d) d range →
    ∃ what node', ros.declareParameter name d range node =
      .error (.other (.runtimeError what)) node' ∧ Frame ros [] node node'
  declare_again : ∀ node name d range, Transported name → ros.parameter node name ≠ none →
    ∃ what node', ros.declareParameter name d range node =
      .error (.alreadyDeclared what) node' ∧ Frame ros [] node node'
  /-- A parameter keeps its type and its range. -/
  set_accepted : ∀ node name value parameter, Transported name →
    ros.parameter node name = some parameter → Admissible value parameter.value parameter.range →
    ∃ reason node', ros.setParameter name value node = .ok ⟨true, reason⟩ node' ∧
      ros.parameter node' name = some { parameter with value } ∧ Frame ros [name] node node'
  getParameter : ∀ node name parameter, ros.parameter node name = some parameter →
    ros.getParameter node name = .ok parameter.value
  asInt : ∀ value, ros.asInt (.integer value) = .ok value
  createPublisher : ∀ topic node, ∃ node', ros.createPublisher topic node = .ok () node' ∧
    Frame ros [] node node'
  createWallTimer : ∀ periodMs node, ∃ node', ros.createWallTimer periodMs node = .ok () node' ∧
    Frame ros [] node node'
  advertiseBase : ∀ topic node, ∃ node', ros.advertiseBase topic node = .ok () node' ∧
    Frame ros [] node node'
  /-- A publisher that is returned has gone through the list. -/
  image_returned : ∀ topic advertise node plugins range plugin node',
    ros.parameter node (ros.listName node topic) = some ⟨.texts plugins, range⟩ →
    ros.createImagePublisher topic advertise node = .ok plugin node' →
    Loaded ros plugins (advertise (ros.expandTopicOrServiceName node topic)) node
      (.ok plugin node')
  /-- The topic is not shorter than the namespace, and the raw transport is in the list. -/
  image_raw : ∀ topic advertise node plugins range,
    (ros.effectiveNamespace node).length ≤ (ros.expandTopicOrServiceName node topic).length →
    ros.parameter node (ros.listName node topic) = some ⟨.texts plugins, range⟩ →
    kRaw ∈ plugins →
    Loaded ros plugins (advertise (ros.expandTopicOrServiceName node topic)) node
      (ros.createImagePublisher topic advertise node)

end Promises

section Frame
variable {N : Type} {ros : Ros N} {touched touched' : List String} {node node' node'' : N}

theorem Frame.refl (node : N) : Frame ros touched node node := ⟨rfl, rfl, rfl, fun _ _ _ => rfl⟩

theorem Frame.trans (h : Frame ros touched node node') (h' : Frame ros touched' node' node'') :
    Frame ros (touched ++ touched') node node'' where
  effectiveNamespace := h'.effectiveNamespace.trans h.effectiveNamespace
  expand := h'.expand.trans h.expand
  overrides := h'.overrides.trans h.overrides
  parameter name hname hout := by
    rw [List.mem_append, not_or] at hout
    exact (h'.parameter name hname hout.2).trans (h.parameter name hname hout.1)

theorem Frame.mono (h : Frame ros touched node node') (hsub : touched ⊆ touched') :
    Frame ros touched' node node' :=
  ⟨h.effectiveNamespace, h.expand, h.overrides,
    fun name hname hout => h.parameter name hname fun hmem => hout (hsub hmem)⟩

end Frame

/-! ### A node with a table of parameters -/

structure ParameterNode where
  effectiveNamespace : String
  overrides : String → Option ParameterValue
  declared : String → Option Parameter

namespace ParameterNode
variable (node : ParameterNode)

def put (name : String) (parameter : Parameter) : ParameterNode :=
  { node with declared := Function.update node.declared name (some parameter) }

def declareParameter (name : String) (d : ParameterValue) (range : Option (Int64 × Int64)) :
    EStateM DeclareException ParameterNode ParameterValue := fun node =>
  let value := (node.overrides name).getD d
  if (node.declared name).isSome then .error (.alreadyDeclared name) node
  else if value.sameType d && inRange range value then .ok value (node.put name ⟨value, range⟩)
  else .error (.other (.runtimeError name)) node

def setParameter (name : String) (value : ParameterValue) :
    EStateM Error ParameterNode SetParametersResult := fun node =>
  match node.declared name with
  | none => .error (.runtimeError name) node
  | some parameter =>
    if value.sameType parameter.value && inRange parameter.range value then
      .ok ⟨true, ""⟩ (node.put name { parameter with value })
    else .ok ⟨false, "out of range"⟩ node

def listName (topic : String) : String :=
  dotted (withoutNamespace node.effectiveNamespace.length topic) ++ ".enable_pub_plugins"

def createImagePublisher (topic : String)
    (advertise : String → EStateM Error ParameterNode Nv12CompressedPublisher) :
    EStateM Error ParameterNode (Option Nv12CompressedPublisher) := fun node =>
  match node.declared (node.listName topic) with
  | some ⟨.texts plugins, _⟩ =>
    if kCompressed ∈ plugins then
      match advertise topic node with
      | .ok plugin node => .ok (some plugin) node
      | .error (.runtimeError _) node | .error (.overflowError _) node => .ok none node
      | .error e node => .error e node
    else .ok none node
  | _ => .error (.runtimeError "no list of plugins") node

def ros : Ros ParameterNode where
  effectiveNamespace := effectiveNamespace
  expandTopicOrServiceName _ topic := topic
  hasParameter node name := (node.declared name).isSome
  declareParameter := declareParameter
  getParameter node name := match node.declared name with
    | some parameter => .ok parameter.value
    | none => .error (.runtimeError name)
  asInt
    | .integer value => .ok value
    | _ => .error (.runtimeError "no integer")
  setParameter := setParameter
  createPublisher _ := pure ()
  createWallTimer _ := pure ()
  advertiseBase _ := pure ()
  createImagePublisher := createImagePublisher
  catchesRuntimeError := true
  catchesLogicError := false
  overrides := overrides
  parameter := declared

variable {node : ParameterNode} {name : String}

theorem frame_put (parameter : Parameter) : Frame ros [name] node (node.put name parameter) :=
  ⟨rfl, rfl, rfl, fun _ _ hout => Function.update_of_ne (by simpa using hout) ..⟩

theorem loaded_list {topic : String}
    {advertise : String → EStateM Error ParameterNode Nv12CompressedPublisher}
    {plugins : List String} {range : Option (Int64 × Int64)}
    (hlist : node.declared (node.listName topic) = some ⟨.texts plugins, range⟩) :
    Loaded ros plugins (advertise topic) node (createImagePublisher topic advertise node) := by
  simp only [createImagePublisher, hlist]
  by_cases hlisted : kCompressed ∈ plugins
  · rw [if_pos hlisted]
    cases hcall : advertise topic node with
    | ok plugin node₂ => exact .advertised hlisted (.refl node) hcall (.refl node₂)
    | error e node₂ =>
      cases e with
      | runtimeError | overflowError => exact .caught hlisted (.refl node) hcall rfl (.refl node₂)
      | invalidArgument | outOfBounds => exact .passed hlisted (.refl node) hcall rfl
  · rw [if_neg hlisted]
    exact .unlisted hlisted (.refl node)

theorem lawful : Lawful ros where
  hasParameter _ _ := rfl
  declare_first node name d range _ hnone hfits := by
    refine ⟨node.put name ⟨_, range⟩, ?_, Function.update_self .., frame_put _⟩
    replace hnone : node.declared name = none := hnone
    replace hfits : ((node.overrides name).getD d).sameType d = true ∧
      inRange range ((node.overrides name).getD d) = true := hfits
    show declareParameter name d range node = _
    simp [declareParameter, hnone, hfits.1, hfits.2]
    exact ⟨rfl, rfl⟩
  declare_refused node name d range _ hnone hfits := by
    refine ⟨name, node, ?_, .refl node⟩
    replace hnone : node.declared name = none := hnone
    replace hfits : ¬ (((node.overrides name).getD d).sameType d = true ∧
      inRange range ((node.overrides name).getD d) = true) := hfits
    show declareParameter name d range node = _
    simp [declareParameter, hnone, hfits]
  declare_again node name d range _ hdeclared := by
    refine ⟨name, node, ?_, .refl node⟩
    have hsome : (node.declared name).isSome = true := Option.isSome_iff_ne_none.mpr hdeclared
    show declareParameter name d range node = _
    simp [declareParameter, hsome]
  set_accepted node name value parameter _ hdeclared hfits := by
    refine ⟨"", node.put name { parameter with value }, ?_, Function.update_self .., frame_put _⟩
    replace hdeclared : node.declared name = some parameter := hdeclared
    show setParameter name value node = _
    simp [setParameter, hdeclared, hfits.1, hfits.2]
  getParameter node name parameter hdeclared := by
    replace hdeclared : node.declared name = some parameter := hdeclared
    simp [ros, hdeclared]
  asInt _ := rfl
  createPublisher _ node := ⟨node, rfl, .refl node⟩
  createWallTimer _ node := ⟨node, rfl, .refl node⟩
  advertiseBase _ node := ⟨node, rfl, .refl node⟩
  image_returned _ _ _ _ _ _ _ hlist hcall := hcall ▸ loaded_list hlist
  image_raw _ _ _ _ _ _ hlist _ := loaded_list hlist

end ParameterNode

end RoboBaton.Node
