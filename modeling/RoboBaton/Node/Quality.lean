import RoboBaton.Node.Transports

/-! The quality that each encoder is made with: the image publishers of all cameras, one after the
other, for every namespace and every override. -/

namespace RoboBaton.Node
open Nv12 Throwing

/-! ### The loop -/

section Loop
variable {N : Type} (ros : Ros N) (config : Config) (start : N)

def parameterBase (c : UInt32) : String :=
  imageTransportParameterBase ros start (cameraTopic c kImageTopicSuffix)

def pluginsName (c : UInt32) : String := parameterBase ros start c ++ ".enable_pub_plugins"

def qualityName (c : UInt32) : String := parameterBase ros start c ++ ".jpeg_quality"

def isFirst (done : List UInt32) (c : UInt32) : Bool :=
  !(done.map (parameterBase ros start)).contains (parameterBase ros start c)

def pluginsOf (done : List UInt32) (c : UInt32) : ParameterValue :=
  valueOf ros start (isFirst ros start done c) (pluginsName ros start c)
    (.texts (enabledPlugins config.publishCompressedImage))

def qualityOf (done : List UInt32) (c : UInt32) : ParameterValue :=
  valueOf ros start (isFirst ros start done c) (qualityName ros start c) (.integer
    (if config.publishCompressedImage then config.compressedJpegQuality.toInt64
     else kDefaultJpegQuality))

def encoderQuality (publish : Bool) (quality : ParameterValue) : Option (Option Int32) :=
  match pluginQuality quality with
  | some quality => some (some quality)
  | none => if ros.goesWithout publish then some none else none

/-- What the two parameters come to: the quality of the encoder, if there is one. With some values
there is no image publisher either. -/
def settle (publish : Bool) (plugins quality : ParameterValue) : Option (Option Int32) :=
  match plugins with
  | .texts plugins =>
    if publish && !quality.sameType (.integer 0) then none
    else if kCompressed ∈ plugins then encoderQuality ros publish quality
    else some none
  | _ => none

def settled (done : List UInt32) (c : UInt32) : Option (Option Int32) :=
  settle ros config.publishCompressedImage (pluginsOf ros config start done c)
    (qualityOf ros config start done c)

def settledAll (done : List UInt32) : List UInt32 → Option (List (Option Int32))
  | [] => some []
  | c :: rest =>
    (settled ros config start done c).bind fun quality =>
      (settledAll (done ++ [c]) rest).bind fun qualities => some (quality :: qualities)

/-- The namespace is not longer than the topic, and the raw transport stays enabled. -/
structure Plain (done : List UInt32) (c : UInt32) : Prop where
  inside : (ros.effectiveNamespace start).length ≤
    (ros.expandTopicOrServiceName start (cameraTopic c kImageTopicSuffix)).length
  raw : ∀ plugins, pluginsOf ros config start done c = .texts plugins → kRaw ∈ plugins

/-- The node when the cameras of `done` have their publishers. -/
structure Furnished (done : List UInt32) (node : N) : Prop where
  effectiveNamespace : ros.effectiveNamespace node = ros.effectiveNamespace start
  expand : ros.expandTopicOrServiceName node = ros.expandTopicOrServiceName start
  overrides : ros.overrides node = ros.overrides start
  plugins : ∀ c ∈ done, ∃ plugins,
    ros.parameter node (pluginsName ros start c) = some ⟨.texts plugins, none⟩
  quality : config.publishCompressedImage = true → ∀ c ∈ done, ∃ value,
    ros.parameter node (qualityName ros start c) = some ⟨.integer value, none⟩
  fresh : ∀ c, parameterBase ros start c ∉ done.map (parameterBase ros start) →
    ros.parameter node (pluginsName ros start c) = none ∧
      ros.parameter node (qualityName ros start c) = none

end Loop

section Furnished
variable {N : Type} {ros : Ros N} {config : Config} {start node node' : N} {done : List UInt32}
  {hb : Codec} {safe : Prop}

theorem pluginsName_ne_qualityName (c c' : UInt32) :
    pluginsName ros start c ≠ qualityName ros start c' := by
  intro h
  have hlast := congrArg (fun name => name.toList.getLast?) h
  simp [pluginsName, qualityName, String.toList_append, List.getLast?_append] at hlast

theorem pluginsName_inj {c c' : UInt32} : pluginsName ros start c = pluginsName ros start c' ↔
    parameterBase ros start c = parameterBase ros start c' := String.append_left_inj _

theorem qualityName_inj {c c' : UInt32} : qualityName ros start c = qualityName ros start c' ↔
    parameterBase ros start c = parameterBase ros start c' := String.append_left_inj _

theorem transported_pluginsName (c : UInt32) : Transported (pluginsName ros start c) :=
  transported_plugins _

theorem transported_qualityName (c : UInt32) : Transported (qualityName ros start c) :=
  transported_quality _

theorem valueOf_congr (h : ros.overrides node = ros.overrides start) (first : Bool) (name : String)
    (value : ParameterValue) : valueOf ros node first name value =
      valueOf ros start first name value := by
  rw [valueOf, valueOf, h]

theorem Furnished.concat (h : Furnished ros config start done node) (c : UInt32)
    (hframe : Frame ros [pluginsName ros start c, qualityName ros start c] node node')
    (hplugins : ∃ plugins,
      ros.parameter node' (pluginsName ros start c) = some ⟨.texts plugins, none⟩)
    (hquality : config.publishCompressedImage = true → ∃ value,
      ros.parameter node' (qualityName ros start c) = some ⟨.integer value, none⟩) :
    Furnished ros config start (done ++ [c]) node' := by
  have hothers : ∀ name, Transported name → name ≠ pluginsName ros start c →
      name ≠ qualityName ros start c → ros.parameter node' name = ros.parameter node name :=
    fun name hname hp hq => hframe.parameter name hname (by simp [hp, hq])
  refine ⟨hframe.effectiveNamespace.trans h.effectiveNamespace, hframe.expand.trans h.expand,
    hframe.overrides.trans h.overrides, ?_, ?_, ?_⟩
  · intro c' hc'
    by_cases hname : pluginsName ros start c' = pluginsName ros start c
    · rwa [hname]
    · rcases List.mem_append.mp hc' with hc' | hc'
      · rw [hothers _ (transported_pluginsName c') hname (pluginsName_ne_qualityName c' c)]
        exact h.plugins c' hc'
      · exact absurd (by rw [List.mem_singleton.mp hc']) hname
  · intro hpublish c' hc'
    by_cases hname : qualityName ros start c' = qualityName ros start c
    · rw [hname]
      exact hquality hpublish
    · rcases List.mem_append.mp hc' with hc' | hc'
      · rw [hothers _ (transported_qualityName c') (pluginsName_ne_qualityName c c').symm hname]
        exact h.quality hpublish c' hc'
      · exact absurd (by rw [List.mem_singleton.mp hc']) hname
  · intro c' hc'
    rw [List.map_append, List.mem_append, not_or] at hc'
    have hbase : parameterBase ros start c' ≠ parameterBase ros start c :=
      fun hb => hc'.2 (by rw [hb]; exact List.mem_singleton_self _)
    rw [hothers _ (transported_pluginsName c') (pluginsName_inj.not.mpr hbase)
        (pluginsName_ne_qualityName c' c),
      hothers _ (transported_qualityName c') (pluginsName_ne_qualityName c c').symm
        (qualityName_inj.not.mpr hbase)]
    exact h.fresh c' hc'.1

theorem Furnished.keep (h : Furnished ros config start done node) {touched : List String}
    (hframe : Frame ros touched node node')
    (htouched : ∀ name ∈ touched, config.publishCompressedImage = false ∧
      ∃ c ∈ done, name = qualityName ros start c) : Furnished ros config start done node' := by
  refine ⟨hframe.effectiveNamespace.trans h.effectiveNamespace, hframe.expand.trans h.expand,
    hframe.overrides.trans h.overrides, ?_, ?_, ?_⟩
  · intro c hc
    rw [hframe.parameter _ (transported_pluginsName c) fun hmem => ?_]
    · exact h.plugins c hc
    · obtain ⟨-, c', -, hname⟩ := htouched _ hmem
      exact pluginsName_ne_qualityName c c' hname
  · intro hpublish c hc
    rw [hframe.parameter _ (transported_qualityName c) fun hmem => ?_]
    · exact h.quality hpublish c hc
    · rw [(htouched _ hmem).1] at hpublish
      exact Bool.false_ne_true hpublish
  · intro c hc
    rw [hframe.parameter _ (transported_pluginsName c) fun hmem => ?_,
      hframe.parameter _ (transported_qualityName c) fun hmem => ?_]
    · exact h.fresh c hc
    · obtain ⟨-, c', hc', hname⟩ := htouched _ hmem
      exact hc (qualityName_inj.mp hname ▸ List.mem_map_of_mem hc')
    · obtain ⟨-, c', -, hname⟩ := htouched _ hmem
      exact pluginsName_ne_qualityName c c' hname

theorem base_eq (h : Furnished ros config start done node) (c : UInt32) :
    imageTransportParameterBase ros node (cameraTopic c kImageTopicSuffix) =
      parameterBase ros start c := by
  rw [imageTransportParameterBase, h.effectiveNamespace, h.expand]
  rfl

/-- The plugin makes up the same name, whatever the namespace cuts off. -/
theorem plugin_base_eq (h : Furnished ros config start done node) (c : UInt32) :
    ros.parameterBaseName node
        (ros.expandTopicOrServiceName start (cameraTopic c kImageTopicSuffix)) =
      parameterBase ros start c := by
  rw [Ros.parameterBaseName, h.effectiveNamespace]
  rfl

theorem listName_eq (h : Furnished ros config start done node) (c : UInt32) :
    ros.listName node (cameraTopic c kImageTopicSuffix) = pluginsName ros start c := by
  rw [Ros.listName, h.expand, plugin_base_eq h]
  rfl

theorem Furnished.first (h : Furnished ros config start done node) {c : UInt32}
    (hfirst : isFirst ros start done c = true) :
    ros.parameter node (pluginsName ros start c) = none ∧
      ros.parameter node (qualityName ros start c) = none := by
  refine h.fresh c fun hmem => ?_
  rw [isFirst, List.contains_iff_mem.mpr hmem] at hfirst
  exact Bool.false_ne_true hfirst

theorem exists_of_not_first {c : UInt32} (hfirst : isFirst ros start done c = false) :
    ∃ c' ∈ done, parameterBase ros start c' = parameterBase ros start c := by
  rw [isFirst, Bool.not_eq_false', List.contains_iff_mem] at hfirst
  exact List.mem_map.mp hfirst

/-! ### One camera -/

structure Left (ros : Ros N) (config : Config) (start : N) (done : List UInt32) (c : UInt32)
    (node : N) : Prop where
  furnished : Furnished ros config start (done ++ [c]) node
  plugins : ros.parameter node (pluginsName ros start c) =
    some ⟨pluginsOf ros config start done c, none⟩
  quality : config.publishCompressedImage = true →
    ros.parameter node (qualityName ros start c) = some ⟨qualityOf ros config start done c, none⟩
  undeclared : config.publishCompressedImage = false → isFirst ros start done c = true →
    ros.parameter node (qualityName ros start c) = none

def wellTyped (ros : Ros N) (config : Config) (start : N) (done : List UInt32) (c : UInt32) :
    Option Unit :=
  if (pluginsOf ros config start done c).sameType
      (.texts (enabledPlugins config.publishCompressedImage)) then
    if config.publishCompressedImage then
      if (qualityOf ros config start done c).sameType
        (.integer config.compressedJpegQuality.toInt64) then some () else none
    else some ()
  else none

theorem exists_texts {value : ParameterValue} {values : List String}
    (h : value.sameType (.texts values) = true) : ∃ values, value = .texts values := by
  cases value with
  | texts values => exact ⟨values, rfl⟩
  | _ => exact absurd h Bool.false_ne_true

theorem exists_integer {value : ParameterValue} {i : Int64}
    (h : value.sameType (.integer i) = true) : ∃ i, value = .integer i := by
  cases value with
  | integer i => exact ⟨i, rfl⟩
  | _ => exact absurd h Bool.false_ne_true

theorem sameType_texts (values values' : List String) :
    (ParameterValue.texts values).sameType (.texts values') = true := rfl

theorem configure_settles (hros : Lawful ros) (h : Furnished ros config start done node)
    (c : UInt32) :
    Settles safe (configureImageTransportPublisher ros (cameraTopic c kImageTopicSuffix)
        config.publishCompressedImage config.compressedJpegQuality node)
      (wellTyped ros config start done c) (Left ros config start done c) := by
  have hget : (get : EStateM Error N N) node = .ok node node := rfl
  have hplugins : Settles safe (declareOrSetImageTransportParameter ros (pluginsName ros start c)
      (.texts (enabledPlugins config.publishCompressedImage)) node) _ _ :=
    declareOrSet_settles hros (transported_pluginsName c) (isFirst ros start done c) rfl
      (fun hf => (h.first hf).1) fun hf => by
        obtain ⟨c', hc', hb⟩ := exists_of_not_first hf
        obtain ⟨old, hold⟩ := h.plugins c' hc'
        rw [pluginsName_inj.mpr hb] at hold
        exact ⟨_, hold, rfl⟩
  rw [valueOf_congr h.overrides] at hplugins
  rw [configureImageTransportPublisher, bind_of_ok hget, base_eq h]
  have hvalue : wellTyped ros config start done c =
      (if (pluginsOf ros config start done c).sameType
          (.texts (enabledPlugins config.publishCompressedImage)) then some () else none).bind
        fun _ => if config.publishCompressedImage then
          if (qualityOf ros config start done c).sameType
            (.integer config.compressedJpegQuality.toInt64) then some () else none
        else some () := by
    rw [wellTyped]
    split <;> rfl
  rw [hvalue]
  refine hplugins.bind fun _ node₁ hsame hnode₁ => ?_
  obtain ⟨hparameter, hframe⟩ := hnode₁
  have hsame : (pluginsOf ros config start done c).sameType
      (.texts (enabledPlugins config.publishCompressedImage)) = true := by
    by_contra hne
    rw [pluginsOf] at hne
    rw [if_neg hne] at hsame
    cases hsame
  obtain ⟨plugins, htexts⟩ := exists_texts hsame
  have hkept : ros.parameter node₁ (qualityName ros start c) =
      ros.parameter node (qualityName ros start c) :=
    hframe.parameter _ (transported_qualityName c)
      (by simpa using (pluginsName_ne_qualityName c c).symm)
  by_cases hpublish : config.publishCompressedImage = true
  · rw [if_pos hpublish, if_pos hpublish]
    have hquality : Settles safe (declareOrSetImageTransportParameter ros (qualityName ros start c)
        (.integer config.compressedJpegQuality.toInt64) node₁) _ _ :=
      declareOrSet_settles hros (transported_qualityName c) (isFirst ros start done c) rfl
        (fun hf => hkept.trans (h.first hf).2) fun hf => by
          obtain ⟨c', hc', hb⟩ := exists_of_not_first hf
          obtain ⟨old, hold⟩ := h.quality hpublish c' hc'
          rw [qualityName_inj.mpr hb] at hold
          exact ⟨_, hkept.trans hold, rfl⟩
    have hof : valueOf ros start (isFirst ros start done c) (qualityName ros start c)
        (.integer config.compressedJpegQuality.toInt64) = qualityOf ros config start done c := by
      rw [qualityOf, if_pos hpublish]
    rw [valueOf_congr (hframe.overrides.trans h.overrides), hof] at hquality
    refine ⟨fun _ node₂ hcall => ?_, fun hs => hquality.returns hs⟩
    obtain ⟨hsome, hparameter₂, hframe₂⟩ := hquality.sound _ node₂ hcall
    refine ⟨hsome, ?_⟩
    have hinteger : (qualityOf ros config start done c).sameType
        (.integer config.compressedJpegQuality.toInt64) = true := by
      by_contra hne
      rw [if_neg hne] at hsome
      cases hsome
    obtain ⟨value, hinteger⟩ := exists_integer hinteger
    have hplugins₂ := (hframe₂.parameter _ (transported_pluginsName c)
      (by simpa using pluginsName_ne_qualityName c c)).trans hparameter
    refine ⟨h.concat c (hframe.trans hframe₂) ⟨plugins, ?_⟩ fun _ => ⟨value, ?_⟩, hplugins₂,
      fun _ => hparameter₂, fun hoff => ?_⟩
    · rw [hplugins₂, ← htexts]
      rfl
    · rw [hparameter₂, hinteger]
    · exact absurd (hpublish.symm.trans hoff) (by simp)
  · rw [if_neg hpublish, if_neg hpublish]
    refine .ok rfl ⟨h.concat c (hframe.mono (by simp)) ⟨plugins, ?_⟩ fun hp => absurd hp hpublish,
      hparameter, fun hp => absurd hp hpublish, fun _ hf => hkept.trans (h.first hf).2⟩
    rw [hparameter, ← htexts]
    rfl

theorem settled_of_wellTyped {c : UInt32} {plugins : List String}
    (hwell : wellTyped ros config start done c = some ())
    (htexts : pluginsOf ros config start done c = .texts plugins) :
    settled ros config start done c = if kCompressed ∈ plugins then
      encoderQuality ros config.publishCompressedImage (qualityOf ros config start done c)
    else some none := by
  rw [wellTyped, htexts, if_pos (sameType_texts ..)] at hwell
  rw [settled, htexts, settle, if_neg]
  intro hbad
  obtain ⟨hpublish, htype⟩ := Bool.and_eq_true_iff.mp hbad
  rw [if_pos hpublish] at hwell
  have hother : (qualityOf ros config start done c).sameType
      (.integer config.compressedJpegQuality.toInt64) = false := by
    rw [Bool.not_eq_true'] at htype
    rw [← htype]
    cases qualityOf ros config start done c <;> rfl
  rw [hother, if_neg Bool.false_ne_true] at hwell
  cases hwell

theorem settled_bind (c : UInt32) : settled ros config start done c =
    (wellTyped ros config start done c).bind fun _ => settled ros config start done c := by
  cases hwell : wellTyped ros config start done c with
  | some => rfl
  | none =>
    rw [Option.bind_none, settled]
    rw [wellTyped] at hwell
    cases hplugins : pluginsOf ros config start done c with
    | texts plugins =>
      rw [hplugins, if_pos (sameType_texts ..)] at hwell
      rw [settle]
      split at hwell
      · rename_i hpublish
        split at hwell
        · cases hwell
        · rename_i htype
          rw [hpublish, Bool.true_and, if_pos]
          rw [Bool.not_eq_true']
          rw [← Bool.eq_false_of_not_eq_true htype]
          cases qualityOf ros config start done c <;> rfl
      · cases hwell
    | _ => rfl

theorem advertise_left (hros : Lawful ros) {c : UInt32} {plugins : List String} {node₁ : N}
    (h : Left ros config start done c node)
    (hwell : wellTyped ros config start done c = some ())
    (htexts : pluginsOf ros config start done c = .texts plugins) (hlist : kCompressed ∈ plugins)
    (hframe : Frame ros [] node node₁) :
    ∃ node₂, Furnished ros config start (done ++ [c]) node₂ ∧
      Advertised ros config.publishCompressedImage (qualityOf ros config start done c) node₂
        (advertise ros hb
          (ros.expandTopicOrServiceName start (cameraTopic c kImageTopicSuffix)) node₁) := by
  have hfurnished : Furnished ros config start (done ++ [c]) node₁ :=
    h.furnished.keep hframe (by simp)
  have hname : ros.parameterBaseName node₁ (ros.expandTopicOrServiceName start
      (cameraTopic c kImageTopicSuffix)) ++ ".jpeg_quality" = qualityName ros start c := by
    rw [plugin_base_eq hfurnished]
    rfl
  have hkept : ros.parameter node₁ (qualityName ros start c) = _ :=
    hframe.parameter _ (transported_qualityName c) List.not_mem_nil
  by_cases hpublish : config.publishCompressedImage = true
  · have htype : (qualityOf ros config start done c).sameType
        (.integer config.compressedJpegQuality.toInt64) = true := by
      rw [wellTyped, htexts, if_pos (sameType_texts ..), if_pos hpublish] at hwell
      by_contra hne
      rw [if_neg hne] at hwell
      cases hwell
    obtain ⟨value, hvalue⟩ := exists_integer htype
    have hdeclared := hkept.trans (h.quality hpublish)
    rw [hvalue, ← hname] at hdeclared
    obtain ⟨node₂, hframe₂, hends⟩ : ∃ node₂, Frame ros [] node₁ node₂ ∧
        Advertised ros true (.integer value) node₂ (advertise ros hb _ node₁) :=
      advertise_again hros hdeclared
    rw [hpublish, hvalue]
    exact ⟨node₂, hfurnished.keep hframe₂ (by simp), hends⟩
  · have hoff := Bool.eq_false_of_not_eq_true hpublish
    -- only an override lists the plugin here
    have hfirst : isFirst ros start done c = true := by
      by_contra hlater
      rw [pluginsOf, Bool.eq_false_of_not_eq_true hlater, hoff] at htexts
      obtain rfl : enabledPlugins false = plugins := ParameterValue.texts.inj htexts
      exact absurd hlist (by decide)
    have hnone := hkept.trans (h.undeclared hoff hfirst)
    rw [← hname] at hnone
    obtain ⟨node₂, hframe₂, hends⟩ : ∃ node₂, Frame ros _ node₁ node₂ ∧
        Advertised ros false _ node₂ (advertise ros hb _ node₁) :=
      advertise_first hros hnone
    rw [hname, valueOf_congr hfurnished.overrides] at hends
    rw [hname] at hframe₂
    have hvalue : qualityOf ros config start done c =
        valueOf ros start true (qualityName ros start c) (.integer kDefaultJpegQuality) := by
      rw [qualityOf, hfirst, if_neg hpublish]
    rw [hoff, hvalue]
    refine ⟨node₂, hfurnished.keep hframe₂ fun name hmem => ⟨hoff, c, ?_, ?_⟩, hends⟩
    · exact List.mem_append_right _ List.mem_cons_self
    · exact List.mem_singleton.mp hmem

theorem loaded_settles (hros : Lawful ros) {c : UInt32} {plugins : List String}
    {r : EStateM.Result Error N (Option Nv12CompressedPublisher)}
    (h : Left ros config start done c node)
    (hwell : wellTyped ros config start done c = some ())
    (htexts : pluginsOf ros config start done c = .texts plugins)
    (hl : Loaded ros plugins (advertise ros hb
      (ros.expandTopicOrServiceName start (cameraTopic c kImageTopicSuffix))) node r) :
    Settles True r ((settled ros config start done c).map (Option.map newPlugin))
      (Furnished ros config start (done ++ [c])) := by
  rw [settled_of_wellTyped hwell htexts]
  cases hl with
  | unlisted hlist hframe =>
    rw [if_neg hlist]
    exact .ok rfl (h.furnished.keep hframe (by simp))
  | advertised hlist hbefore hcall hafter =>
    obtain ⟨node₂, hfurnished, husable, huseless⟩ : ∃ node₂, _ ∧
        Advertised ros _ _ node₂ (advertise ros hb _ _) :=
      advertise_left hros h hwell htexts hlist hbefore
    rw [if_pos hlist, encoderQuality]
    cases hquality : pluginQuality (qualityOf ros config start done c) with
    | none =>
      obtain ⟨e, -, herror⟩ := huseless hquality
      rw [hcall] at herror
      cases herror
    | some quality =>
      have hok := husable quality hquality
      rw [hcall] at hok
      obtain ⟨rfl, rfl⟩ := EStateM.Result.ok.inj hok
      exact .ok rfl (hfurnished.keep hafter (by simp))
  | caught hlist hbefore hcall hcatch hafter | passed hlist hbefore hcall hcatch =>
    obtain ⟨node₂, hfurnished, husable, huseless⟩ : ∃ node₂, _ ∧
        Advertised ros _ _ node₂ (advertise ros hb _ _) :=
      advertise_left hros h hwell htexts hlist hbefore
    rw [if_pos hlist, encoderQuality]
    cases hquality : pluginQuality (qualityOf ros config start done c) with
    | some quality =>
      have hok := husable quality hquality
      rw [hcall] at hok
      cases hok
    | none =>
      obtain ⟨e, he, herror⟩ := huseless hquality
      rw [hcall] at herror
      obtain ⟨rfl, rfl⟩ := EStateM.Result.error.inj herror
      rw [he] at hcatch
      simp only [hcatch]
      first
        | exact .ok rfl (hfurnished.keep hafter (by simp))
        | exact .error rfl

theorem create_settles (hros : Lawful ros) (h : Furnished ros config start done node)
    (c : UInt32) :
    Settles (Plain ros config start done c) (createPublishers ros hb config c node)
      ((settled ros config start done c).map (Option.map newPlugin))
      (Furnished ros config start (done ++ [c])) := by
  rw [createPublishers, settled_bind, Option.map_bind]
  refine (configure_settles hros h c).bind fun _ node₁ hwell hleft => ?_
  obtain ⟨plugins, htexts⟩ : ∃ plugins, pluginsOf ros config start done c = .texts plugins := by
    have htype : (pluginsOf ros config start done c).sameType
        (.texts (enabledPlugins config.publishCompressedImage)) = true := by
      by_contra hne
      rw [wellTyped, if_neg hne] at hwell
      cases hwell
    exact exists_texts htype
  have hlist := hleft.plugins
  rw [htexts, ← listName_eq hleft.furnished c] at hlist
  have hexpand := hleft.furnished.expand
  have himage : Settles (Plain ros config start done c)
      (ros.createImagePublisher (cameraTopic c kImageTopicSuffix) (advertise ros hb) node₁)
      ((settled ros config start done c).map (Option.map newPlugin))
      (Furnished ros config start (done ++ [c])) := by
    constructor
    · intro plugin node₂ hcall
      have hl := hros.image_returned _ _ _ _ _ _ _ hlist hcall
      rw [hexpand] at hl
      exact (loaded_settles hros hleft hwell htexts hl).sound _ _ rfl
    · intro hplain
      have hinside := hplain.inside
      rw [← hexpand, ← hleft.furnished.effectiveNamespace] at hinside
      have hl := hros.image_raw _ (advertise ros hb) _ _ _ hinside hlist (hplain.raw plugins htexts)
      rw [hexpand] at hl
      exact (loaded_settles hros hleft hwell htexts hl).returns trivial
  have hreturn : (settled ros config start done c).map (Option.map newPlugin) =
      ((settled ros config start done c).map (Option.map newPlugin)).bind some :=
    (Option.bind_fun_some _).symm
  change Settles _ _ ((settled ros config start done c).map (Option.map newPlugin)) _
  rw [hreturn]
  refine himage.bind fun plugin node₂ _ hfurnished => ?_
  by_cases hinfo : config.publishCameraInfo = true
  · rw [if_pos hinfo]
    obtain ⟨node₃, hcall, hframe⟩ :=
      hros.createPublisher (cameraTopic c kCameraInfoTopicSuffix) node₂
    exact .ok (bind_of_ok hcall) (hfurnished.keep hframe (by simp))
  · rw [if_neg hinfo]
    exact .ok rfl hfurnished

/-! ### All cameras -/

theorem publishers_settle (hros : Lawful ros) (h : Furnished ros config start done node)
    (cameras : List UInt32) :
    Settles (∀ before c rest, cameras = before ++ c :: rest →
        Plain ros config start (done ++ before) c)
      (createImagePublishers ros hb config cameras node)
      ((settledAll ros config start done cameras).map (List.map (Option.map newPlugin)))
      (Furnished ros config start (done ++ cameras)) := by
  induction cameras generalizing done node with
  | nil => exact .ok rfl ((List.append_nil done).symm ▸ h)
  | cons c rest ih =>
    have hvalue : (settledAll ros config start done (c :: rest)).map
        (List.map (Option.map newPlugin)) =
        ((settled ros config start done c).map (Option.map newPlugin)).bind fun plugin =>
          ((settledAll ros config start (done ++ [c]) rest).map
            (List.map (Option.map newPlugin))).bind fun plugins => some (plugin :: plugins) := by
      rw [settledAll]
      cases settled ros config start done c with
      | none => rfl
      | some quality => cases settledAll ros config start (done ++ [c]) rest <;> rfl
    have hcreate : Settles _ (createPublishers ros hb config c node) _ _ := create_settles hros h c
    rw [createImagePublishers, hvalue]
    refine (hcreate.mono (fun hplain => ?_) fun _ hs => hs).bind fun plugin node₁ _ hnode₁ => ?_
    · have hfirst := hplain [] c rest rfl
      rwa [List.append_nil] at hfirst
    · refine ((ih hnode₁).mono (fun hplain before c' rest' hsplit => ?_) fun _ hs => hs).bind
        fun plugins node₂ _ hnode₂ => .ok rfl ?_
      · rw [List.append_assoc, List.singleton_append]
        exact hplain (c :: before) c' rest' (congrArg (c :: ·) hsplit)
      · rwa [List.append_assoc, List.singleton_append] at hnode₂

theorem settledAll_eq_some {cameras : List UInt32} {qualities : List (Option Int32)}
    (h : settledAll ros config start done cameras = some qualities) :
    ∀ before c rest, cameras = before ++ c :: rest → ∃ quality,
      settled ros config start (done ++ before) c = some quality ∧
        qualities[before.length]? = some quality := by
  induction cameras generalizing done qualities with
  | nil =>
    intro before c rest hsplit
    exact absurd hsplit.symm (by simp)
  | cons d cameras ih =>
    obtain ⟨quality, hd, h⟩ := Option.bind_eq_some_iff.mp h
    obtain ⟨others, hrest, h⟩ := Option.bind_eq_some_iff.mp h
    obtain rfl := Option.some.inj h
    rintro (_ | ⟨b, before⟩) c rest hsplit
    · obtain ⟨rfl, -⟩ := List.cons.inj hsplit
      exact ⟨quality, by rwa [List.append_nil], rfl⟩
    · obtain ⟨rfl, htail⟩ := List.cons.inj hsplit
      have hlater := ih hrest before c rest htail
      rwa [List.append_assoc, List.singleton_append] at hlater

theorem exists_settledAll {cameras : List UInt32}
    (h : ∀ before c rest, cameras = before ++ c :: rest →
      ∃ quality, settled ros config start (done ++ before) c = some quality) :
    ∃ qualities, settledAll ros config start done cameras = some qualities := by
  induction cameras generalizing done with
  | nil => exact ⟨[], rfl⟩
  | cons d cameras ih =>
    obtain ⟨quality, hd⟩ := h [] d cameras rfl
    rw [List.append_nil] at hd
    have hlater : ∀ before c rest, cameras = before ++ c :: rest → ∃ quality,
        settled ros config start (done ++ [d] ++ before) c = some quality := by
      intro before c rest hsplit
      rw [List.append_assoc, List.singleton_append]
      exact h (d :: before) c rest (congrArg (d :: ·) hsplit)
    obtain ⟨qualities, hall⟩ := ih hlater
    refine ⟨quality :: qualities, ?_⟩
    rw [settledAll, hd, Option.bind_some, hall, Option.bind_some]

theorem usable_of_checked (hchecked : publisherChecks config = .ok ()) :
    Usable config.compressedJpegQuality.toInt64 := by
  rw [Usable, Int32.toInt_toInt64]
  exact (publisherChecks_eq_ok.mp hchecked).2.2.1

structure Unset (ros : Ros N) (start : N) (c : UInt32) : Prop where
  plugins : ros.overrides start (pluginsName ros start c) = none
  quality : ros.overrides start (qualityName ros start c) = none

theorem valueOf_unset {name : String} (h : ros.overrides start name = none) (first : Bool)
    (value : ParameterValue) : valueOf ros start first name value = value := by
  rw [valueOf, h]
  exact ite_self value

theorem pluginsOf_unset {c : UInt32} (h : Unset ros start c) :
    pluginsOf ros config start done c = .texts (enabledPlugins config.publishCompressedImage) :=
  valueOf_unset h.plugins _ _

theorem settled_default (hchecked : publisherChecks config = .ok ()) {c : UInt32}
    (h : Unset ros start c) : settled ros config start done c =
      some (if config.publishCompressedImage then some config.compressedJpegQuality else none) := by
  rw [settled, pluginsOf_unset h, qualityOf, valueOf_unset h.quality]
  cases config.publishCompressedImage with
  | false => rfl
  | true =>
    have htype : ¬(true && !(ParameterValue.integer
        config.compressedJpegQuality.toInt64).sameType (.integer 0)) = true := Bool.false_ne_true
    show settle ros true (.texts (enabledPlugins true))
      (.integer config.compressedJpegQuality.toInt64) = _
    rw [settle, if_neg htype, if_pos (by decide), encoderQuality, pluginQuality,
      if_pos (usable_of_checked hchecked), Int32.toInt32_toInt64]
    rfl

theorem settledAll_default {cameras : List UInt32} {quality : Option Int32}
    (h : ∀ c ∈ cameras, ∀ done, settled ros config start done c = some quality) :
    settledAll ros config start done cameras = some (cameras.map fun _ => quality) := by
  induction cameras generalizing done with
  | nil => rfl
  | cons c cameras ih =>
    have hrest : settledAll ros config start (done ++ [c]) cameras = _ :=
      ih fun c' hc' => h c' (List.mem_cons_of_mem _ hc')
    rw [settledAll, h c List.mem_cons_self, Option.bind_some, hrest]
    rfl

theorem exists_usable {c : UInt32} {quality : Int32}
    (h : settled ros config start done c = some (some quality)) :
    ∃ value, Usable value ∧ quality = value.toInt32 := by
  rw [settled] at h
  generalize pluginsOf ros config start done c = plugins at h
  generalize qualityOf ros config start done c = value at h
  cases plugins with
  | texts plugins =>
    rw [settle] at h
    split at h
    · cases h
    · split at h
      · rw [encoderQuality] at h
        cases value with
        | integer value =>
          rw [pluginQuality] at h
          by_cases husable : Usable value
          · rw [if_pos husable] at h
            exact ⟨value, husable, (Option.some.inj (Option.some.inj h)).symm⟩
          · simp only [if_neg husable] at h
            split at h <;> cases h
        | _ =>
          simp only [pluginQuality] at h
          split at h <;> cases h
      · cases h
  | _ => cases h

theorem serve_advertise {value : Int64} (h : Usable value) :
    serve hb [.advertise value.toInt32] = newPlugin value.toInt32 := by
  simp only [serve, List.foldl_cons, List.foldl_nil, Request.run, advertiseImpl, make_encoder h]
  rfl

theorem map_serve {c : UInt32} {quality : Option Int32}
    (h : settled ros config start done c = some quality) :
    quality.map newPlugin = quality.map fun quality => serve hb [.advertise quality] := by
  cases quality with
  | none => rfl
  | some quality =>
    obtain ⟨value, husable, rfl⟩ := exists_usable h
    rw [Option.map_some, Option.map_some, serve_advertise husable]

end Furnished

/-! ### The loop as a whole -/

section Reaches
variable {N : Type}

def Fresh (ros : Ros N) (start : N) : Prop :=
  ∀ c, ros.parameter start (pluginsName ros start c) = none ∧
    ros.parameter start (qualityName ros start c) = none

def Each (config : Config) (P : List UInt32 → UInt32 → Prop) : Prop :=
  ∀ before c rest, enabledCameras config.options.cameraMask = before ++ c :: rest → P before c

structure QualityReaches (ros : Ros N) (config : Config) (start : N) (hb : Codec)
    (call : EStateM.Result Error N (List (Option Nv12CompressedPublisher))) : Prop where
  /-- Each camera gets the encoder that its parameters settle. -/
  settles : ∀ plugins node, call = .ok plugins node →
    Each config fun before c => ∃ quality, settled ros config start before c = some quality ∧
      plugins[before.length]? = some (quality.map fun quality => serve hb [.advertise quality])
  /-- The loop goes through if no camera makes it throw. -/
  accepted : (Each config fun before c => Plain ros config start before c) →
    (Each config fun before c => ∃ quality, settled ros config start before c = some quality) →
    ∃ plugins node, call = .ok plugins node
  /-- Without overrides that is the quality that the user asked for, in every namespace. -/
  configured : publisherChecks config = .ok () →
    (∀ c ∈ enabledCameras config.options.cameraMask, Unset ros start c ∧
      (ros.effectiveNamespace start).length ≤
        (ros.expandTopicOrServiceName start (cameraTopic c kImageTopicSuffix)).length) →
    ∃ node, call = .ok ((enabledCameras config.options.cameraMask).map fun _ =>
      if config.publishCompressedImage then
        some (serve hb [.advertise config.compressedJpegQuality]) else none) node

theorem furnished_start {ros : Ros N} (config : Config) {start : N} (hnew : Fresh ros start) :
    Furnished ros config start [] start :=
  ⟨rfl, rfl, rfl, fun _ hc => absurd hc List.not_mem_nil,
    fun _ _ hc => absurd hc List.not_mem_nil, fun c _ => hnew c⟩

/-- The quality that the user asked for gets to the encoders, although each side makes up the name
of the parameter for itself, and although several cameras may have to share one name. -/
theorem quality_reaches {ros : Ros N} (hros : Lawful ros) (hb : Codec) (config : Config)
    {start : N} (hnew : Fresh ros start) :
    QualityReaches ros config start hb (createImagePublishers ros hb config
      (enabledCameras config.options.cameraMask) start) := by
  have hsettles : Settles _ (createImagePublishers ros hb config
      (enabledCameras config.options.cameraMask) start) _ _ :=
    publishers_settle hros (furnished_start config hnew) _
  refine ⟨fun plugins node hcall before c rest hsplit => ?_, fun hplain hall => ?_,
    fun hchecked hunset => ?_⟩
  · obtain ⟨hvalue, -⟩ := hsettles.sound plugins node hcall
    obtain ⟨qualities, hqualities, rfl⟩ := Option.map_eq_some_iff.mp hvalue
    obtain ⟨quality, hquality, hget⟩ := settledAll_eq_some hqualities before c rest hsplit
    refine ⟨quality, hquality, ?_⟩
    rw [List.getElem?_map, hget, Option.map_some, map_serve hquality]
  · obtain ⟨qualities, hqualities⟩ : ∃ qualities, settledAll ros config start [] _ = _ :=
      exists_settledAll hall
    have hvalue := congrArg (Option.map (List.map (Option.map newPlugin))) hqualities
    exact ⟨_, hsettles.returns hplain _ hvalue⟩
  · have hall : settledAll ros config start [] (enabledCameras config.options.cameraMask) = _ :=
      settledAll_default fun c hc done => settled_default hchecked (hunset c hc).1
    have hplain : Each config fun before c => Plain ros config start before c := by
      intro before c rest hsplit
      have hc : c ∈ enabledCameras config.options.cameraMask := by simp [hsplit]
      obtain ⟨hc, hinside⟩ := hunset c hc
      refine ⟨hinside, fun plugins hplugins => ?_⟩
      rw [pluginsOf_unset hc] at hplugins
      obtain rfl := ParameterValue.texts.inj hplugins
      exact List.mem_cons_self
    obtain ⟨node, hcall⟩ := hsettles.returns hplain _
      (congrArg (Option.map (List.map (Option.map newPlugin))) hall)
    refine ⟨node, ?_⟩
    rw [hcall, List.map_map]
    have hplugin : Option.map newPlugin (if config.publishCompressedImage then
        some config.compressedJpegQuality else none) = if config.publishCompressedImage then
          some (serve hb [.advertise config.compressedJpegQuality]) else none := by
      have hserve : serve hb [.advertise _] = _ := serve_advertise (usable_of_checked hchecked)
      rw [Int32.toInt32_toInt64] at hserve
      rw [hserve]
      cases config.publishCompressedImage <;> rfl
    rw [← hplugin]
    rfl

end Reaches

/-! ### A run of the loop -/

def compressedConfig : Config where
  options := ⟨kDefaultCameraMask, 30, 0, 10000000, 100, "software_gpio"⟩
  queueCapacity := 4
  queuePolicy := .kBlock
  publishCameraInfo := true
  imageEncoding := "nv12"
  publishCompressedImage := true
  compressedJpegQuality := 90
  frameIdPrefix := "robobaton_cam"
  rateMetricsEnabled := false
  rateLogPeriodMs := 1000
  rateRunId := ""

def overriddenNode : ParameterNode where
  effectiveNamespace := "/"
  overrides name :=
    if name = "robobaton.cam1.image_raw.jpeg_quality" then some (.integer 35) else none
  declared _ := none

theorem quality_reaches_override :
    settledAll ParameterNode.ros compressedConfig overriddenNode []
      (enabledCameras compressedConfig.options.cameraMask) =
        some [some 90, some 35, some 90, some 90] ∧
    QualityReaches ParameterNode.ros compressedConfig overriddenNode willing
      (createImagePublishers ParameterNode.ros willing compressedConfig
        (enabledCameras compressedConfig.options.cameraMask) overriddenNode) :=
  ⟨by decide, quality_reaches ParameterNode.lawful willing compressedConfig fun _ => ⟨rfl, rfl⟩⟩

end RoboBaton.Node
