import Scalper.Scoring.YamlLoader

/-!
# What the loader drops

A configuration is loaded, or the load raises.  Loaded, it has the elements of `scoring.rules`,
`sizing.tiers` and `shadow.variants` and the keys of the shadow, sizing and risk blocks, in order,
when nothing of the document is dropped (`NothingDropped`).  The comprehensions of the loader pass
over an element that is no mapping, and the shadow block is read key by key: the configuration has
everything exactly where there are no such elements and no other keys, and everything inside the
tiers and variants exactly where these have their own keys only
(`loadBotConfig_nothingDropped_iff`).
-/

set_option autoImplicit false

namespace Scalper.Scoring.YamlLoader

open Scalper.Lib

variable {γ : Type}

/-! ## What a document holds -/

/-- The entries of a block of the document; an empty value is no block. -/
def blockOf (data : Entries) (name : String) : Entries :=
  (((Yaml.lookup data name).filter Yaml.truthy).bind fun block => block.dict.toOption).getD []

def rulesIn (data : Entries) : List Yaml :=
  (((Yaml.lookup data "scoring").bind Yaml.asDict).bind fun scoring =>
    (rulesYaml scoring).toOption).getD []

def tiersIn (data : Entries) : List Yaml :=
  (rawTiers (blockOf data "sizing")).toOption.getD []

def variantsIn (data : Entries) : List Yaml :=
  (rawVariants (blockOf data "shadow")).toOption.getD []

/-! ## Representation -/

/-- The rule has the name, the feature, the weight and the condition of these entries. -/
structure RuleOf (parser : ConditionParser γ) (entries : Entries) (rule : ScoringRule γ) :
    Prop where
  name : Yaml.lookup entries "name" = some (.str rule.name)
  weight : weightOf (Yaml.lookup entries "weight") = some rule.weight
  condition : ∃ spec, Yaml.lookup entries "condition" = some (.map spec) ∧
    featureOf parser entries spec = .ok (some (.str rule.feature)) ∧
    parser.parseCondition spec = .ok rule.condition

/-- The tier has the amounts of these entries. -/
structure TierOf (entries : Entries) (tier : SizingTier) : Prop where
  balanceMin : ∃ value, Yaml.lookup entries "balance_min" = some value ∧
    decimalField (toDecimal value) = some tier.balanceMin
  size : ∃ value, Yaml.lookup entries "size" = some value ∧
    decimalField (toDecimal value) = some tier.size

/-- The dictionary has the keys of these entries, each with the amount it was given last. -/
def DictOf (pydantic : Pydantic) (entries : Entries) (amounts : List (String × ℚ)) : Prop :=
  ∃ pairs, List.Forall₂ (fun entry pair => pydantic.laxStr entry.1 = some pair.1 ∧
    decimalField (toDecimal entry.2) = some pair.2) entries pairs ∧
    amounts = dictBy Prod.fst pairs

/-- The variant has the name and the overrides of these entries. -/
structure VariantOf (pydantic : Pydantic) (entries : Entries) (variant : ShadowVariant) :
    Prop where
  name : pydantic.laxStr ((Yaml.lookup entries "name").getD (.str "")) = some variant.name
  overrides : ∃ overrides,
    (Yaml.orElse (Yaml.lookup entries "overrides") (.map [])).items = .ok overrides ∧
    DictOf pydantic overrides variant.overrides

/-- The key of a tier is one the tier has the amount of. -/
inductive TierKey (entries : Entries) (tier : SizingTier) : Yaml → Prop
  | balanceMin {value : Yaml} : Yaml.lookup entries "balance_min" = some value →
      decimalField (toDecimal value) = some tier.balanceMin → TierKey entries tier
      (.str "balance_min")
  | size {value : Yaml} : Yaml.lookup entries "size" = some value →
      decimalField (toDecimal value) = some tier.size → TierKey entries tier (.str "size")

/-- The key of a variant is one the variant has the value of. -/
inductive VariantKey (pydantic : Pydantic) (entries : Entries) (variant : ShadowVariant) :
    Yaml → Prop
  | name {value : Yaml} : Yaml.lookup entries "name" = some value →
      pydantic.laxStr value = some variant.name →
      VariantKey pydantic entries variant (.str "name")
  | overrides {overrides : Entries} :
      (Yaml.orElse (Yaml.lookup entries "overrides") (.map [])).items = .ok overrides →
      DictOf pydantic overrides variant.overrides →
      VariantKey pydantic entries variant (.str "overrides")

/-- The key of a shadow block is one the section has the value of. -/
inductive ShadowKey (block : Entries) (shadow : ShadowConfig) : Yaml → Prop
  | enabled {value : Yaml} : Yaml.lookup block "enabled" = some value →
      shadow.enabled = value.truthy → ShadowKey block shadow (.str "enabled")
  | variants {elements : List Yaml} : rawVariants block = .ok elements →
      ShadowKey block shadow (.str "variants")
  | maxDurationHours {value : Yaml} {number : DecimalNumber} :
      Yaml.lookup block "max_duration_hours" = some value →
      value.toFloat = .ok (.finite number) → shadow.maxDurationHours = number.value →
      ShadowKey block shadow (.str "max_duration_hours")

/-- The whole numbers of a risk section by their keys. -/
def knobs (risk : RiskSection) : List (String × ℕ) :=
  [("cooldown_after_loss_minutes", risk.cooldownAfterLossMinutes),
    ("cooldown_after_streak_n_losses", risk.cooldownAfterStreakNLosses),
    ("cooldown_after_streak_n_losses_minutes", risk.cooldownAfterStreakNLossesMinutes),
    ("max_open_trades_per_bot", risk.maxOpenTradesPerBot),
    ("max_open_trades_global", risk.maxOpenTradesGlobal)]

/-- The amounts of a risk section by their keys. -/
def amounts (risk : RiskSection) : List (String × ℚ) :=
  [("daily_loss_limit_usd", risk.dailyLossLimitUsd), ("max_drawdown_pct", risk.maxDrawdownPct)]

/-- The key of a risk block is one the section has the value of. -/
inductive RiskKey (pydantic : Pydantic) (block : Entries) (risk : RiskSection) : Yaml → Prop
  | knob {name : String} {number : ℕ} {value : Yaml} : (name, number) ∈ knobs risk →
      Yaml.lookup block name = some value → natField pydantic value = some number →
      RiskKey pydantic block risk (.str name)
  | amount {name : String} {number : ℚ} {value : Yaml} : (name, number) ∈ amounts risk →
      Yaml.lookup block name = some value → decimalField (toDecimal value) = some number →
      RiskKey pydantic block risk (.str name)
  | blockOppositeSide {value : Yaml} : Yaml.lookup block "block_opposite_side" = some value →
      pydantic.laxBool value = some risk.blockOppositeSide →
      RiskKey pydantic block risk (.str "block_opposite_side")

/-- The key of a sizing block is one the section has the value of. -/
inductive SizingKey (pydantic : Pydantic) (block : Entries) (sizing : SizingSection) :
    Yaml → Prop
  | method {value : Yaml} : Yaml.lookup block "method" = some value →
      literal [("tier", .tier), ("risk_per_sl", .riskPerSl)] value = some sizing.method →
      SizingKey pydantic block sizing (.str "method")
  | tiers {elements : List Yaml} : rawTiers block = .ok elements →
      SizingKey pydantic block sizing (.str "tiers")
  | scoreMultipliers {value : Yaml} {entries : Entries} :
      Yaml.lookup block "score_multipliers" = some value →
      (Yaml.orElse (some value) (.map [])).items = .ok entries →
      DictOf pydantic entries sizing.scoreMultipliers →
      SizingKey pydantic block sizing (.str "score_multipliers")
  | riskPct {value : Yaml} : Yaml.lookup block "risk_pct" = some value →
      nullable (fun value => decimalField (toDecimal value)) value = some sizing.riskPct →
      SizingKey pydantic block sizing (.str "risk_pct")
  | maxNotionalPerSymbol {value : Yaml} {entries : Entries} :
      Yaml.lookup block "max_notional_per_symbol" = some value →
      (Yaml.orElse (some value) (.map [])).items = .ok entries →
      DictOf pydantic entries sizing.maxNotionalPerSymbol →
      SizingKey pydantic block sizing (.str "max_notional_per_symbol")

/-- The element is a mapping, answered by what was built from it. -/
def Element {β : Type} (built : Entries → β → Prop) (element : Yaml) (value : β) : Prop :=
  ∃ entries, element = .map entries ∧ built entries value

/-- Every element of the three lists and every key of the three blocks is in the configuration, in
order. -/
structure NothingDropped (pydantic : Pydantic) (parser : ConditionParser γ) (data : Entries)
    (config : BotConfig γ) : Prop where
  rules : List.Forall₂ (Element (RuleOf parser)) (rulesIn data) config.scoring.rules
  tiers : List.Forall₂ (Element TierOf) (tiersIn data) (config.sizing.elim [] SizingSection.tiers)
  variants : List.Forall₂ (Element (VariantOf pydantic)) (variantsIn data)
    (config.shadow.elim [] ShadowConfig.variants)
  shadowKeys : ∀ entry ∈ blockOf data "shadow", ∃ shadow ∈ config.shadow,
    ShadowKey (blockOf data "shadow") shadow entry.1
  sizingKeys : ∀ entry ∈ blockOf data "sizing", ∃ sizing ∈ config.sizing,
    SizingKey pydantic (blockOf data "sizing") sizing entry.1
  riskKeys : ∀ entry ∈ blockOf data "risk",
    RiskKey pydantic (blockOf data "risk") config.risk entry.1

/-- Nothing inside a tier or a variant is dropped either. -/
structure NothingDroppedWithin (pydantic : Pydantic) (parser : ConditionParser γ)
    (data : Entries) (config : BotConfig γ) : Prop
    extends NothingDropped pydantic parser data config where
  tierKeys : List.Forall₂
    (Element fun entries tier => ∀ entry ∈ entries, TierKey entries tier entry.1)
    (tiersIn data) (config.sizing.elim [] SizingSection.tiers)
  variantKeys : List.Forall₂
    (Element fun entries variant => ∀ entry ∈ entries, VariantKey pydantic entries variant entry.1)
    (variantsIn data) (config.shadow.elim [] ShadowConfig.variants)

/-! ## The condition -/

/-- The keys of a shadow block that the loader reads. -/
def shadowFields : List String :=
  ["enabled", "variants", "max_duration_hours"]

/-- The elements of the lists are mappings, and the shadow block has its own keys only. -/
structure WellShaped (data : Entries) : Prop where
  rules : ∀ element ∈ rulesIn data, element.asDict.isSome
  tiers : ∀ element ∈ tiersIn data, element.asDict.isSome
  variants : ∀ element ∈ variantsIn data, element.asDict.isSome
  shadowKeys : ∀ entry ∈ blockOf data "shadow", ∃ field ∈ shadowFields, entry.1 = .str field

/-- A mapping has no keys but these. -/
def HasOnly (fields : List String) (element : Yaml) : Prop :=
  ∀ entries, element = .map entries → ∀ entry ∈ entries, ∃ field ∈ fields, entry.1 = .str field

/-- The tiers and the variants have their own keys only, too. -/
structure WellShapedWithin (data : Entries) : Prop extends WellShaped data where
  tierKeys : ∀ element ∈ tiersIn data, HasOnly ["balance_min", "size"] element
  variantKeys : ∀ element ∈ variantsIn data, HasOnly ["name", "overrides"] element

/-! ## What each builder keeps -/

section Builders

variable {α : Type} {model name : String} {entries : Entries}

theorem asDict_eq_some_iff {value : Yaml} :
    value.asDict = some entries ↔ value = .map entries := by
  cases value <;> simp [Yaml.asDict]

theorem isKey_iff {key : Yaml} : Yaml.isKey name key = true ↔ key = .str name := by
  cases key <;> simp [Yaml.isKey]

theorem lookup_isSome {entry : Yaml × Yaml} (member : entry ∈ entries)
    (named : entry.1 = .str name) : ∃ value, Yaml.lookup entries name = some value := by
  rw [← Option.isSome_iff_exists, Yaml.lookup, Option.isSome_map, List.find?_isSome]
  exact ⟨entry, member, isKey_iff.mpr named⟩

theorem getItem_eq_ok_iff {value : Yaml} :
    Yaml.getItem entries name = .ok value ↔ Yaml.lookup entries name = some value := by
  unfold Yaml.getItem
  cases Yaml.lookup entries name <;> simp

theorem validated_eq_ok_iff {field : Option α} {value : α} :
    validated model field = .ok value ↔ field = some value := by
  cases field <;> simp [validated]

theorem optional_of_lookup {default : α} {read : Yaml → Option α} {value : Yaml} {field : α}
    (given : Yaml.lookup entries name = some value) :
    optional model entries name default read = .ok field ↔ read value = some field := by
  rw [optional, given]
  exact validated_eq_ok_iff

theorem fields_of_forbidExtra {fields : List String} {done : Unit}
    (accepted : forbidExtra model fields entries = .ok done) :
    ∀ entry ∈ entries, ∃ field ∈ fields, entry.1 = .str field := by
  unfold forbidExtra at accepted
  split_ifs at accepted with known
  intro entry member
  obtain ⟨field, listed, named⟩ := List.any_eq_true.mp (List.all_eq_true.mp known entry member)
  exact ⟨field, listed, isKey_iff.mp named⟩

theorem dictOf_of_decimalDict {pydantic : Pydantic} {dictionary : List (String × ℚ)}
    (built : decimalDict pydantic model (entries.map fun entry => (entry.1, toDecimal entry.2)) =
      .ok dictionary) : DictOf pydantic entries dictionary := by
  obtain ⟨pairs, each, same⟩ := bind_eq_ok_iff.mp built
  refine ⟨pairs, ?_, (Except.ok.inj same).symm⟩
  rw [mapM_eq_ok_iff, List.forall₂_map_left_iff] at each
  refine each.imp fun entry pair read => ?_
  obtain ⟨key, named, amounted⟩ := bind_eq_ok_iff.mp read
  obtain ⟨amount, coerced, paired⟩ := bind_eq_ok_iff.mp amounted
  rw [← Except.ok.inj paired]
  exact ⟨validated_eq_ok_iff.mp named, validated_eq_ok_iff.mp coerced⟩

theorem nonnegDecimal_eq_some_iff {value : Yaml} {amount : { amount : ℚ // 0 ≤ amount }} :
    nonnegDecimal value = some amount ↔ decimalField (toDecimal value) = some amount.1 := by
  unfold nonnegDecimal
  constructor
  · intro read
    obtain ⟨raw, coerced, checked⟩ := Option.bind_eq_some_iff.mp read
    split_ifs at checked with nonneg
    rw [coerced, ← Option.some.inj checked]
  · intro coerced
    rw [coerced, Option.bind_some, dif_pos amount.2]

theorem strictStr_eq_some_iff {value : Yaml} {text : String} :
    strictStr value = some text ↔ value = .str text := by
  cases value <;> simp [strictStr]

/-- A rule is built from its own entries. -/
theorem ruleOf_of_buildRule {parser : ConditionParser γ} {rule : ScoringRule γ}
    (built : buildRule parser entries = .ok rule) : RuleOf parser entries rule := by
  unfold buildRule at built
  cases conditioned : (Yaml.lookup entries "condition").bind Yaml.asDict with
  | none => simp [conditioned] at built
  | some spec =>
      obtain ⟨value, given, mapping⟩ := Option.bind_eq_some_iff.mp conditioned
      rw [asDict_eq_some_iff] at mapping
      simp only [conditioned, bind_eq_ok_iff] at built
      obtain ⟨feature, featured, built⟩ := built
      cases feature with
      | none => simp at built
      | some feature =>
          simp only [bind_eq_ok_iff] at built
          obtain ⟨condition, parsed, built⟩ := built
          cases weighed : weightOf (Yaml.lookup entries "weight") with
          | none => simp [weighed] at built
          | some weight =>
              simp only [weighed, bind_eq_ok_iff, validated_eq_ok_iff] at built
              obtain ⟨name, named, text, textual, reference, referenced, _, _, _, _, _, _, _, _,
                same⟩ := built
              obtain rfl := Except.ok.inj same
              rw [getItem_eq_ok_iff, strictStr_eq_some_iff.mp textual] at named
              rw [strictStr_eq_some_iff.mp referenced] at featured
              exact ⟨named, weighed, spec, mapping ▸ given, featured, parsed⟩

/-- A tier is built from its own entries. -/
theorem tierOf_of_sizingTier {tier : SizingTier} (built : sizingTier entries = .ok tier) :
    TierOf entries tier := by
  -- without the key the field is `None`, which is no decimal
  have present : ∀ {name : String} {amount : { amount : ℚ // 0 ≤ amount }},
      nonnegDecimal ((Yaml.lookup entries name).getD .null) = some amount →
        ∃ value, Yaml.lookup entries name = some value ∧
          decimalField (toDecimal value) = some amount.1 := by
    intro name amount read
    rw [nonnegDecimal_eq_some_iff] at read
    cases given : Yaml.lookup entries name with
    | none => simp [given, toDecimal, decimalField] at read
    | some value => exact ⟨value, rfl, by simpa [given] using read⟩
  simp only [sizingTier, bind_eq_ok_iff, validated_eq_ok_iff] at built
  obtain ⟨balanceMin, first, size, second, same⟩ := built
  obtain rfl := Except.ok.inj same
  exact ⟨present first, present second⟩

/-- A variant is built from its own entries. -/
theorem variantOf_of_shadowVariant {pydantic : Pydantic} {variant : ShadowVariant}
    (built : shadowVariant pydantic entries = .ok variant) : VariantOf pydantic entries variant := by
  simp only [shadowVariant, bind_eq_ok_iff, validated_eq_ok_iff] at built
  obtain ⟨overridesRaw, listed, name, named, overrides, coerced, checked⟩ := built
  split_ifs at checked with valid
  obtain rfl := Except.ok.inj checked
  exact ⟨named, overridesRaw, listed, dictOf_of_decimalDict coerced⟩

end Builders

/-! ## What each block keeps -/

section Blocks

variable {pydantic : Pydantic} {block : Entries}

/-- The shadow section has the elements of the block and the keys it knows. -/
theorem of_shadowBlock {shadow : ShadowConfig}
    (built : shadowBlock pydantic block = .ok shadow) :
    (∃ elements, rawVariants block = .ok elements ∧
      (elements.filterMap Yaml.asDict).mapM (shadowVariant pydantic) = .ok shadow.variants) ∧
    ∀ entry ∈ block, ShadowKey block shadow entry.1 ↔
      ∃ field ∈ shadowFields, entry.1 = .str field := by
  simp only [shadowBlock, bind_eq_ok_iff] at built
  obtain ⟨elements, listed, variants, built, hours, timed, checked⟩ := built
  cases hours with
  | infinite _ => cases checked
  | nan _ => cases checked
  | finite number =>
      simp only [shadowConfig] at checked
      split_ifs at checked with valid
      obtain rfl := Except.ok.inj checked
      refine ⟨⟨elements, listed, built⟩, fun entry member => ⟨?_, ?_⟩⟩
      · intro represented
        generalize entry.1 = key at represented ⊢
        cases represented <;> simp [shadowFields]
      · rintro ⟨field, known, named⟩
        obtain ⟨value, given⟩ := lookup_isSome member named
        rw [named]
        simp only [shadowFields, List.mem_cons, List.not_mem_nil, or_false] at known
        rcases known with rfl | rfl | rfl
        · exact .enabled given (by simp [given])
        · exact .variants listed
        · exact .maxDurationHours given (by simpa [given] using timed) rfl

/-- The risk section has every key of the block. -/
theorem riskKey_of_riskBlock {risk : RiskSection} (built : riskBlock pydantic block = .ok risk) :
    ∀ entry ∈ block, RiskKey pydantic block risk entry.1 := by
  simp only [riskBlock, bind_eq_ok_iff] at built
  obtain ⟨_, _, _, accepted, _, first, _, second, _, third, _, fourth, _, fifth, limit, sixth,
    drawdown, seventh, _, eighth, same⟩ := built
  obtain rfl := Except.ok.inj same
  intro entry member
  obtain ⟨field, known, named⟩ := fields_of_forbidExtra accepted entry member
  obtain ⟨value, given⟩ := lookup_isSome member named
  rw [named]
  simp only [riskFields, List.mem_cons, List.not_mem_nil, or_false] at known
  rcases known with rfl | rfl | rfl | rfl | rfl | rfl | rfl | rfl
  · exact .knob (by simp [knobs]) given ((optional_of_lookup given).mp first)
  · exact .knob (by simp [knobs]) given ((optional_of_lookup given).mp second)
  · exact .knob (by simp [knobs]) given ((optional_of_lookup given).mp third)
  · exact .knob (by simp [knobs]) given ((optional_of_lookup given).mp fourth)
  · exact .knob (by simp [knobs]) given ((optional_of_lookup given).mp fifth)
  · exact .amount (by simp [amounts]) given
      (nonnegDecimal_eq_some_iff.mp ((optional_of_lookup given).mp sixth))
  · exact .amount (by simp [amounts]) given
      (nonnegDecimal_eq_some_iff.mp ((optional_of_lookup given).mp seventh))
  · exact .blockOppositeSide given ((optional_of_lookup given).mp eighth)

theorem dictOf_of_coerceAmounts {name model : String} {value : Yaml}
    {coerced : Option (List (Yaml × Coerced))} {dictionary : List (String × ℚ)}
    (given : Yaml.lookup block name = some value)
    (read : coerceAmounts block name = .ok coerced)
    (built : decimalDict pydantic model (coerced.getD []) = .ok dictionary) :
    ∃ entries, (Yaml.orElse (some value) (.map [])).items = .ok entries ∧
      DictOf pydantic entries dictionary := by
  simp only [coerceAmounts, given, bind_eq_ok_iff] at read
  obtain ⟨entries, listed, same⟩ := read
  obtain rfl := Except.ok.inj same
  exact ⟨entries, listed, dictOf_of_decimalDict built⟩

/-- The sizing section has the tiers of the block and every key of it. -/
theorem of_sizingBlock {sizing : SizingSection}
    (built : sizingBlock pydantic block = .ok sizing) :
    (∃ elements, rawTiers block = .ok elements ∧
      (elements.filterMap Yaml.asDict).mapM sizingTier = .ok sizing.tiers) ∧
    ∀ entry ∈ block, SizingKey pydantic block sizing entry.1 := by
  simp only [sizingBlock, bind_eq_ok_iff, validated_eq_ok_iff] at built
  obtain ⟨elements, listed, tiers, tiered, multipliers, multiplied, caps, capped, _, _, _, accepted,
    method, moded, scoreMultipliers, scored, riskPct, risked, present, rfl, limits, limited,
    checked⟩ := built
  simp only [sizingSection] at checked
  split_ifs at checked with valid
  obtain rfl := Except.ok.inj checked
  refine ⟨⟨elements, listed, tiered⟩, fun entry member => ?_⟩
  obtain ⟨field, known, named⟩ := fields_of_forbidExtra accepted entry member
  obtain ⟨value, given⟩ := lookup_isSome member named
  rw [named]
  simp only [sizingFields, List.mem_cons, List.not_mem_nil, or_false] at known
  rcases known with rfl | rfl | rfl | rfl | rfl
  · exact .method given ((optional_of_lookup given).mp moded)
  · exact .tiers listed
  · obtain ⟨entries, itemized, kept⟩ := dictOf_of_coerceAmounts given multiplied scored
    exact .scoreMultipliers given itemized kept
  · exact .riskPct given ((optional_of_lookup given).mp risked)
  · have coerced : decimalDict pydantic "SizingSection" ((some present).getD []) = .ok limits :=
      limited
    obtain ⟨entries, itemized, kept⟩ := dictOf_of_coerceAmounts given capped coerced
    exact .maxNotionalPerSymbol given itemized kept

end Blocks

/-! ## What a loaded configuration holds -/

section Load

variable {pydantic : Pydantic} {parser : ConditionParser γ} {data : Entries}

/-- Nothing of a comprehension is dropped exactly when its elements are mappings. -/
theorem forall₂_element_iff {β : Type} {build : Entries → Except LoadError β}
    {built : Entries → β → Prop} (sound : ∀ entries value, build entries = .ok value →
      built entries value) {elements : List Yaml} {values : List β}
    (done : (elements.filterMap Yaml.asDict).mapM build = .ok values) :
    List.Forall₂ (Element built) elements values ↔
      ∀ element ∈ elements, element.asDict.isSome := by
  refine forall₂_iff_kept (fun element entries value mapping complete => ?_) ?_ elements done
  · exact ⟨entries, asDict_eq_some_iff.mp mapping, sound entries value complete⟩
  · rintro element value ⟨entries, rfl, -⟩
    rfl

/-- The parts of the configuration come from their parts of the document. -/
theorem parts_of_loadBotConfig {config : BotConfig γ}
    (loaded : loadBotConfig pydantic parser (.map data) = .ok config) :
    ((rulesIn data).filterMap Yaml.asDict).mapM (buildRule parser) = .ok config.scoring.rules ∧
      parseShadow pydantic (Yaml.lookup data "shadow") = .ok config.shadow ∧
      parseRisk pydantic (Yaml.lookup data "risk") = .ok config.risk ∧
      parseSizing pydantic (Yaml.lookup data "sizing") = .ok config.sizing := by
  simp only [loadBotConfig, bind_eq_ok_iff] at loaded
  obtain ⟨data', mapped, scoringYaml, scoringMapped, scoring, scored, trading, _, _, _, _, _, _, _,
    _, _, _, _, shadow, shadowed, risk, risked, sizing, sized, _, _, _, _, _, _, checked⟩ := loaded
  obtain rfl := Except.ok.inj mapped
  split_ifs at checked with valid
  obtain rfl := Except.ok.inj checked
  refine ⟨?_, shadowed, risked, sized⟩
  simp only [parseScoring, bind_eq_ok_iff] at scored
  obtain ⟨elements, listed, rules, built, _, _, checked⟩ := scored
  have same : scoring.rules = rules := by
    simp only [scoringConfig, bind_eq_ok_iff] at checked
    obtain ⟨_, _, checked⟩ := checked
    split_ifs at checked
    rw [← Except.ok.inj checked]
  have elementsIn : rulesIn data = elements := by
    unfold rulesIn
    cases given : Yaml.lookup data "scoring" with
    | none =>
        rw [given] at scoringMapped
        obtain rfl := Except.ok.inj scoringMapped
        exact Except.ok.inj listed
    | some value =>
        simp only [given, Option.getD_some, mappingOr] at scoringMapped
        cases mapping : value.asDict with
        | none => simp [mapping] at scoringMapped
        | some entries =>
            rw [mapping] at scoringMapped
            obtain rfl := Except.ok.inj scoringMapped
            simp [mapping, listed, Except.toOption]
  rw [elementsIn, same]
  exact built

theorem blockOf_of_present {name : String} {value : Yaml} {entries : Entries}
    (present : (Yaml.lookup data name).filter Yaml.truthy = some value)
    (listed : value.dict = .ok entries) : blockOf data name = entries := by
  simp [blockOf, present, listed, Except.toOption]

theorem blockOf_of_absent {name : String}
    (absent : (Yaml.lookup data name).filter Yaml.truthy = none) : blockOf data name = [] := by
  simp [blockOf, absent]

theorem dict_of_items {value : Yaml} {entries : Entries} (listed : value.items = .ok entries) :
    value.dict = .ok entries := by
  unfold Yaml.items at listed
  unfold Yaml.dict
  cases mapping : value.asDict with
  | none => simp [mapping] at listed
  | some given => simpa [mapping] using listed

/-- An optional section is built from its block where the document has one that is not empty. -/
theorem of_optionalBlock {α : Type} {name : String} {read : Yaml → Except LoadError Entries}
    {build : Entries → Except LoadError α} {result : Option α}
    (lists : ∀ block entries, read block = .ok entries → block.dict = .ok entries)
    (absent : (Yaml.lookup data name).filter Yaml.truthy = none → result = none)
    (present : ∀ block, (Yaml.lookup data name).filter Yaml.truthy = some block →
      ∃ entries, read block = .ok entries ∧
        ∃ config, build entries = .ok config ∧ result = some config) :
    (blockOf data name = [] ∧ result = none) ∨
      ∃ config, result = some config ∧ build (blockOf data name) = .ok config := by
  cases given : (Yaml.lookup data name).filter Yaml.truthy with
  | none => exact .inl ⟨blockOf_of_absent given, absent given⟩
  | some block =>
      obtain ⟨entries, listed, config, built, same⟩ := present block given
      refine .inr ⟨config, same, ?_⟩
      rw [blockOf_of_present given (lists block entries listed)]
      exact built

/-- The shadow section is that of the document's block, if there is one. -/
theorem of_parseShadow {shadow : Option ShadowConfig}
    (parsed : parseShadow pydantic (Yaml.lookup data "shadow") = .ok shadow) :
    (blockOf data "shadow" = [] ∧ shadow = none) ∨
      ∃ config, shadow = some config ∧
        shadowBlock pydantic (blockOf data "shadow") = .ok config := by
  unfold parseShadow at parsed
  refine of_optionalBlock (fun _ _ => dict_of_items) (fun absent => ?_) fun block present => ?_
  · rw [absent] at parsed
    exact (Except.ok.inj parsed).symm
  · simp only [present, bind_eq_ok_iff] at parsed
    obtain ⟨entries, listed, config, built, same⟩ := parsed
    exact ⟨entries, listed, config, built, (Except.ok.inj same).symm⟩

/-- The risk section is that of the document's block, if there is one. -/
theorem of_parseRisk {risk : RiskSection}
    (parsed : parseRisk pydantic (Yaml.lookup data "risk") = .ok risk) :
    blockOf data "risk" = [] ∨ riskBlock pydantic (blockOf data "risk") = .ok risk := by
  unfold parseRisk at parsed
  cases present : (Yaml.lookup data "risk").filter Yaml.truthy with
  | none => exact .inl (blockOf_of_absent present)
  | some block =>
      simp only [present, bind_eq_ok_iff] at parsed
      obtain ⟨entries, listed, built⟩ := parsed
      rw [blockOf_of_present present (dict_of_items listed)]
      exact .inr built

/-- The sizing section is that of the document's block, if there is one. -/
theorem of_parseSizing {sizing : Option SizingSection}
    (parsed : parseSizing pydantic (Yaml.lookup data "sizing") = .ok sizing) :
    (blockOf data "sizing" = [] ∧ sizing = none) ∨
      ∃ section', sizing = some section' ∧
        sizingBlock pydantic (blockOf data "sizing") = .ok section' := by
  unfold parseSizing at parsed
  refine of_optionalBlock (fun _ _ => id) (fun absent => ?_) fun block present => ?_
  · rw [absent] at parsed
    exact (Except.ok.inj parsed).symm
  · simp only [present, bind_eq_ok_iff] at parsed
    obtain ⟨entries, listed, config, built, same⟩ := parsed
    exact ⟨entries, listed, config, built, (Except.ok.inj same).symm⟩

/-- The variants of the configuration are built from the mappings among the elements. -/
theorem variants_of_parseShadow {shadow : Option ShadowConfig}
    (parsed : parseShadow pydantic (Yaml.lookup data "shadow") = .ok shadow) :
    ((variantsIn data).filterMap Yaml.asDict).mapM (shadowVariant pydantic) =
      .ok (shadow.elim [] ShadowConfig.variants) := by
  unfold variantsIn
  rcases of_parseShadow parsed with ⟨empty, rfl⟩ | ⟨config, rfl, built⟩
  · rw [empty]
    rfl
  · obtain ⟨elements, listed, done⟩ := (of_shadowBlock built).1
    simpa [listed, Except.toOption] using done

/-- The tiers of the configuration are built from the mappings among the elements. -/
theorem tiers_of_parseSizing {sizing : Option SizingSection}
    (parsed : parseSizing pydantic (Yaml.lookup data "sizing") = .ok sizing) :
    ((tiersIn data).filterMap Yaml.asDict).mapM sizingTier =
      .ok (sizing.elim [] SizingSection.tiers) := by
  unfold tiersIn
  rcases of_parseSizing parsed with ⟨empty, rfl⟩ | ⟨config, rfl, built⟩
  · rw [empty]
    rfl
  · obtain ⟨elements, listed, done⟩ := (of_sizingBlock built).1
    simpa [listed, Except.toOption] using done

/-- The configuration has every element and every key exactly where the elements are mappings and
the shadow block has its own keys. -/
theorem nothingDropped_iff {config : BotConfig γ}
    (loaded : loadBotConfig pydantic parser (.map data) = .ok config) :
    NothingDropped pydantic parser data config ↔ WellShaped data := by
  obtain ⟨rules, shadowed, risked, sized⟩ := parts_of_loadBotConfig loaded
  have ruled := forall₂_element_iff (fun _ _ => ruleOf_of_buildRule) rules
  have tiered := forall₂_element_iff (fun _ _ => tierOf_of_sizingTier) (tiers_of_parseSizing sized)
  have varied := forall₂_element_iff (fun _ _ => variantOf_of_shadowVariant)
    (variants_of_parseShadow shadowed)
  have keyed : (∀ entry ∈ blockOf data "shadow", ∃ shadow ∈ config.shadow,
      ShadowKey (blockOf data "shadow") shadow entry.1) ↔
        ∀ entry ∈ blockOf data "shadow", ∃ field ∈ shadowFields, entry.1 = .str field := by
    rcases of_parseShadow shadowed with ⟨empty, -⟩ | ⟨shadow, present, built⟩
    · simp [empty]
    · refine forall₂_congr fun entry member => ?_
      rw [← (of_shadowBlock built).2 entry member, present]
      simp
  constructor
  · intro kept
    exact ⟨ruled.mp kept.rules, tiered.mp kept.tiers, varied.mp kept.variants,
      keyed.mp kept.shadowKeys⟩
  · intro shaped
    refine ⟨ruled.mpr shaped.rules, tiered.mpr shaped.tiers, varied.mpr shaped.variants,
      keyed.mpr shaped.shadowKeys, ?_, ?_⟩
    · rcases of_parseSizing sized with ⟨empty, -⟩ | ⟨sizing, present, built⟩
      · simp [empty]
      · exact fun entry member => ⟨sizing, present, (of_sizingBlock built).2 entry member⟩
    · rcases of_parseRisk risked with empty | built
      · simp [empty]
      · exact riskKey_of_riskBlock built

/-! ## Inside tiers and variants -/

theorem tierKey_iff {entries : Entries} {tier : SizingTier} (built : TierOf entries tier)
    {key : Yaml} :
    TierKey entries tier key ↔ ∃ field ∈ ["balance_min", "size"], key = .str field := by
  constructor
  · intro represented
    cases represented <;> simp
  · rintro ⟨field, known, rfl⟩
    simp only [List.mem_cons, List.not_mem_nil, or_false] at known
    obtain ⟨least, given, read⟩ := built.balanceMin
    obtain ⟨size, sized, amounted⟩ := built.size
    rcases known with rfl | rfl
    · exact .balanceMin given read
    · exact .size sized amounted

theorem variantKey_iff {entries : Entries} {variant : ShadowVariant}
    (built : VariantOf pydantic entries variant) {entry : Yaml × Yaml} (member : entry ∈ entries) :
    VariantKey pydantic entries variant entry.1 ↔
      ∃ field ∈ ["name", "overrides"], entry.1 = .str field := by
  constructor
  · intro represented
    generalize entry.1 = key at represented ⊢
    cases represented <;> simp
  · rintro ⟨field, known, named⟩
    obtain ⟨value, given⟩ := lookup_isSome member named
    obtain ⟨overrides, listed, kept⟩ := built.overrides
    rw [named]
    simp only [List.mem_cons, List.not_mem_nil, or_false] at known
    rcases known with rfl | rfl
    · exact .name given (by simpa [given] using built.name)
    · exact .overrides listed kept

/-- The keys of the elements are kept exactly when the elements have no others. -/
theorem forall₂_element_keys_iff {β : Type} {built : Entries → β → Prop}
    {represented : Entries → β → Yaml → Prop} {fields : List String}
    (keyed : ∀ entries value, built entries value → ∀ entry ∈ entries,
      (represented entries value entry.1 ↔ ∃ field ∈ fields, entry.1 = .str field))
    {elements : List Yaml} {values : List β}
    (all : List.Forall₂ (Element built) elements values) :
    List.Forall₂ (Element fun entries value => ∀ entry ∈ entries, represented entries value entry.1)
        elements values ↔ ∀ element ∈ elements, HasOnly fields element := by
  induction all with
  | nil => simp
  | @cons element value elements values first _ ih =>
      obtain ⟨entries, rfl, complete⟩ := first
      rw [List.forall₂_cons, List.forall_mem_cons, ih]
      refine and_congr_left fun _ => ?_
      constructor
      · rintro ⟨entries', same, kept⟩ listed given entry member
        obtain rfl := Yaml.map.inj same
        obtain rfl := Yaml.map.inj given
        exact (keyed entries value complete entry member).mp (kept entry member)
      · intro plain
        exact ⟨entries, rfl, fun entry member =>
          (keyed entries value complete entry member).mpr (plain entries rfl entry member)⟩

/-- The configuration has everything inside the tiers and the variants, too, exactly where these
have their own keys only. -/
theorem nothingDroppedWithin_iff {config : BotConfig γ}
    (loaded : loadBotConfig pydantic parser (.map data) = .ok config) :
    NothingDroppedWithin pydantic parser data config ↔ WellShapedWithin data := by
  have tiered : ∀ {values : List SizingTier},
      List.Forall₂ (Element TierOf) (tiersIn data) values →
      (List.Forall₂ (Element fun entries tier => ∀ entry ∈ entries, TierKey entries tier entry.1)
        (tiersIn data) values ↔
        ∀ element ∈ tiersIn data, HasOnly ["balance_min", "size"] element) :=
    forall₂_element_keys_iff fun _ _ built _ _ => tierKey_iff built
  have varied : ∀ {values : List ShadowVariant},
      List.Forall₂ (Element (VariantOf pydantic)) (variantsIn data) values →
      (List.Forall₂ (Element fun entries variant =>
          ∀ entry ∈ entries, VariantKey pydantic entries variant entry.1)
        (variantsIn data) values ↔
        ∀ element ∈ variantsIn data, HasOnly ["name", "overrides"] element) :=
    forall₂_element_keys_iff fun _ _ built _ member => variantKey_iff built member
  constructor
  · intro whole
    exact ⟨(nothingDropped_iff loaded).mp whole.toNothingDropped,
      (tiered whole.tiers).mp whole.tierKeys, (varied whole.variants).mp whole.variantKeys⟩
  · intro shaped
    have whole := (nothingDropped_iff loaded).mpr shaped.toWellShaped
    exact ⟨whole, (tiered whole.tiers).mpr shaped.tierKeys,
      (varied whole.variants).mpr shaped.variantKeys⟩

/-- **Nothing is dropped, where the document is well shaped.**  Of every document that is loaded,
the configuration has every element of the rules, the tiers and the variants and every key of the
shadow, sizing and risk blocks, in order, exactly when every such element is a mapping and the
shadow block has no keys but its own; and everything inside the tiers and the variants as well
exactly when these have no keys but their own. -/
theorem loadBotConfig_nothingDropped_iff {document : Yaml} {config : BotConfig γ}
    (loaded : loadBotConfig pydantic parser document = .ok config) :
    ∃ data, document = .map data ∧
      (NothingDropped pydantic parser data config ↔ WellShaped data) ∧
      (NothingDroppedWithin pydantic parser data config ↔ WellShapedWithin data) := by
  have mapping : ∃ data, document = .map data := by
    obtain ⟨data, mapped, -⟩ := bind_eq_ok_iff.mp loaded
    cases document with
    | map entries => exact ⟨entries, rfl⟩
    | _ => cases mapped
  obtain ⟨data, rfl⟩ := mapping
  exact ⟨data, rfl, nothingDropped_iff loaded, nothingDroppedWithin_iff loaded⟩

end Load

/-! ## A rule out of place -/

/-- Conversions of plain values. -/
def plainPydantic : Pydantic where
  laxStr := strictStr
  laxInt := strictInt
  laxBool := strictBool

/-- The conditions `gt` on a feature. -/
def gtParser : ConditionParser ℚ where
  extractFeature spec := .ok ((Yaml.lookup spec "feature").bind strictStr)
  parseCondition spec :=
    match (Yaml.lookup spec "type").bind strictStr, Yaml.lookup spec "value" with
    | some "gt", some value => validated "GtCondition" (decimalField (toDecimal value))
    | _, _ => .error (.condition "unknown condition type")

def keyed (entries : List (String × Yaml)) : Entries :=
  entries.map fun entry => (.str entry.1, entry.2)

theorem hasOnly_keyed (entries : List (String × Yaml)) :
    HasOnly (entries.map Prod.fst) (.map (keyed entries)) := by
  intro listed same entry member
  obtain rfl := Yaml.map.inj same
  obtain ⟨field, given, rfl⟩ := List.mem_map.mp member
  exact ⟨field.1, List.mem_map_of_mem given, rfl⟩

/-- A bot on paper with these rules and further blocks. -/
def paperBot (rules : List Yaml) (blocks : List (String × Yaml)) : Entries :=
  keyed ([("bot_id", .str "alpha"),
    ("exchange", .map (keyed [("mode", .str "paper"), ("account", .str "sub"),
      ("api_key_env", .str "KEY"), ("api_secret_env", .str "SECRET")])),
    ("trading", .map (keyed [("universe", .list [.str "BTCUSDT"])])),
    ("execution", .map (keyed [("qty", .str "0.001"), ("leverage", .int 10),
      ("sl_pct", .str "0.01"), ("tp_pct", .str "0.015"), ("tp_qty_pct", .str "0.5"),
      ("be_trigger", .str "0.005"), ("be_sl_level", .str "0.003"), ("trail_pct", .str "0.005"),
      ("fee_rate", .str "0.00055")])),
    ("scoring", .map (keyed [("trigger_threshold", .int 1), ("rules", .list rules)]))] ++ blocks)

def gtRule : Yaml :=
  .map (keyed [("name", .str "momentum"), ("weight", .int 1),
    ("condition", .map (keyed [("type", .str "gt"), ("feature", .str "ind.rsi"),
      ("value", .int 50)]))])

theorem exists_of_isSome (document : Yaml)
    (loads : (loadBotConfig plainPydantic gtParser document).toOption.isSome) :
    ∃ config, loadBotConfig plainPydantic gtParser document = .ok config := by
  cases loaded : loadBotConfig plainPydantic gtParser document with
  | error error => simp [loaded, Except.toOption] at loads
  | ok config => exact ⟨config, rfl⟩

/-- A rule of which only the name is in its place, and a misspelt key that was to switch the shadow
variants on: the bot is loaded without the rule and without shadow variants. -/
def misindented : Entries :=
  paperBot [.str "momentum"] [("shadow", .map (keyed [("enabld", .bool true)]))]

theorem misindented_dropped :
    ¬ ∀ config, loadBotConfig plainPydantic gtParser (.map misindented) = .ok config →
      NothingDropped plainPydantic gtParser misindented config := by
  intro claimed
  obtain ⟨config, loaded⟩ := exists_of_isSome (.map misindented) (by decide +kernel)
  have kept := (claimed config loaded).rules
  have elements : rulesIn misindented = [.str "momentum"] := rfl
  rw [elements] at kept
  obtain ⟨rule, _, ⟨entries, same, -⟩, -⟩ := List.forall₂_cons_left_iff.mp kept
  cases same

/-- A bot with a rule, a tier and a shadow variant. -/
def tieredBot : Entries :=
  paperBot [gtRule]
    [("sizing", .map (keyed [
        ("tiers", .list [.map (keyed [("balance_min", .int 0), ("size", .int 700)])]),
        ("score_multipliers", .map (keyed [("4", .str "1.0")])),
        ("max_notional_per_symbol", .map (keyed [("default", .int 2000)]))])),
      ("shadow", .map (keyed [("enabled", .bool true),
        ("variants", .list [.map (keyed [("name", .str "wide"),
          ("overrides", .map (keyed [("sl_pct", .str "0.02")]))])])])),
      ("risk", .map (keyed [("max_open_trades_per_bot", .int 1)]))]

theorem tieredBot_nothingDropped :
    ∃ config, loadBotConfig plainPydantic gtParser (.map tieredBot) = .ok config ∧
      NothingDroppedWithin plainPydantic gtParser tieredBot config := by
  obtain ⟨config, loaded⟩ := exists_of_isSome (.map tieredBot) (by decide +kernel)
  obtain ⟨data, same, -, within⟩ := loadBotConfig_nothingDropped_iff loaded
  obtain rfl := Yaml.map.inj same
  refine ⟨config, loaded, within.mpr ?_⟩
  have rules : rulesIn tieredBot = [gtRule] := rfl
  have tiers : tiersIn tieredBot = [.map (keyed [("balance_min", .int 0), ("size", .int 700)])] :=
    rfl
  have variants : variantsIn tieredBot = [.map (keyed [("name", .str "wide"),
    ("overrides", .map (keyed [("sl_pct", .str "0.02")]))])] := rfl
  have shadow : ∀ entry ∈ blockOf tieredBot "shadow",
      ∃ field ∈ shadowFields, entry.1 = .str field := by
    have keys : (blockOf tieredBot "shadow").map Prod.fst = [.str "enabled", .str "variants"] := rfl
    intro entry member
    have listed : entry.1 ∈ [Yaml.str "enabled", .str "variants"] :=
      keys ▸ List.mem_map_of_mem member
    rcases List.mem_pair.mp listed with named | named
    · exact ⟨"enabled", by simp [shadowFields], named⟩
    · exact ⟨"variants", by simp [shadowFields], named⟩
  refine ⟨⟨?_, ?_, ?_, shadow⟩, ?_, ?_⟩
  · rw [rules]
    exact List.forall_mem_singleton.mpr rfl
  · rw [tiers]
    exact List.forall_mem_singleton.mpr rfl
  · rw [variants]
    exact List.forall_mem_singleton.mpr rfl
  · rw [tiers]
    exact List.forall_mem_singleton.mpr (hasOnly_keyed _)
  · rw [variants]
    exact List.forall_mem_singleton.mpr (hasOnly_keyed _)

end Scalper.Scoring.YamlLoader
