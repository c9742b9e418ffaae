import Mathlib
import Psychometrics.Configuration.Json
import Psychometrics.Proofs.Json.Record
import Psychometrics.Proofs.Timestamp.Roundtrip

/-!
# Reading back configurations

What is written of a configuration is read back as the same configuration, with one exception: a
scaling rule may name a blank reference, which reading drops (`Configuration.ofStored?_toJson`).  A
configuration without such a rule has named references (`Configuration.HasNamedReferences`); it is
read back as it is, and every configuration that has been read is of that kind
(`Configuration.hasNamedReferences_of_ofStored?`).

Each record has a reader and a writer, and one lemma says that the reader takes back what the writer
has written.
-/

namespace Psychometrics

open Json (choice? list list? nullable nullable? orDefault record? required table table? written)

/-! ### Optional parts -/

namespace Json

variable {α : Type} {read : Json → Option α} {write : α → Json}

/-- An optional field is written when there is a value. -/
lemma optionalField_eq_written (key : String) (write : α → Json) (a : Option α) :
    optionalField key write a = written [(key, a.map write)] := by
  cases a <;> rfl

/-- A flag is written when it is set. -/
lemma flagField_eq_written (key : String) (flag : Bool) :
    flagField key flag = written [(key, if flag then some (.bool true) else none)] := by
  cases flag <;> rfl

@[simp] lemma required_some (read : Json → Option α) (value : Json) :
    required read (some value) = read value := rfl

@[simp] lemma orDefault_some (default : α) (read : Json → Option α) (value : Json) :
    orDefault default read (some value) = read value := rfl

@[simp] lemma string?_string (s : String) : string? (.string s) = some s := rfl

/-- A part that is written when there is a value is read back. -/
lemma orDefault_nullable?_map {a : Option α}
    (h : ∀ x, a = some x → write x ≠ .null ∧ read (write x) = some x) :
    orDefault none (nullable? read) (a.map write) = some a := by
  cases a with
  | none => rfl
  | some x => exact nullable?_nullable h

/-- A flag that is written only when it is set is read back. -/
lemma orDefault_bool?_flag (flag : Bool) :
    orDefault false bool? (if flag then some (.bool true) else none) = some flag := by
  cases flag <;> rfl

/-- What a reader with a default yields is the default or was read. -/
lemma exists_of_orDefault_eq_some {default a : α} {part : Option Json}
    (h : orDefault default read part = some a) : a = default ∨ ∃ value, read value = some a := by
  cases part with
  | none => exact .inl (Option.some.inj h).symm
  | some value => exact .inr ⟨value, h⟩

/-- A value other than null is read by a nullable reader as by the reader itself. -/
lemma nullable?_of_ne_null {value : Json} (h : value ≠ .null) :
    nullable? read value = (read value).map some := by
  cases value with
  | null => exact absurd rfl h
  | _ => rfl

/-- What a nullable reader yields other than nothing was read. -/
lemma eq_some_of_nullable?_eq_some {value : Json} {a : α}
    (h : nullable? read value = some (some a)) : read value = some a := by
  unfold nullable? at h
  split at h
  · cases h
  · obtain ⟨b, hb, heq⟩ := Option.map_eq_some_iff.mp h
    exact Option.some.inj heq ▸ hb

end Json

/-! ### Modes, directions and references -/

/-- A mode is read back. -/
lemma Mode.ofJson?_toJson (mode : Mode) : Mode.ofJson? mode.toJson = some mode := by
  cases mode <;> decide

/-- A method is read back. -/
lemma ScalingMethod.ofJson?_toJson (method : ScalingMethod) :
    ScalingMethod.ofJson? method.toJson = some method := by
  cases method <;> decide

/-- A direction is read back. -/
lemma Direction.ofJson?_toJson (direction : Direction) :
    Direction.ofJson? direction.toJson = some direction := by
  cases direction <;> decide

/-- What a relation refers to is read back: a number as an item and a text as a name. -/
lemma IndicatorRef.ofJson?_toJson (ref : IndicatorRef) :
    IndicatorRef.ofJson? ref.toJson = some ref := by
  cases ref with
  | item id => exact congrArg (Option.map IndicatorRef.item) (Json.int64?_int64 id)
  | named id => rfl

/-- A timestamp is read back. -/
lemma Timestamp.ofJson?_toJson (t : Timestamp) : Timestamp.ofJson? t.toJson = some t :=
  t.parse?_format

/-! ### Records without rules -/

/-- A global item is read back. -/
lemma GlobalItem.ofJson?_toJson (item : GlobalItem) :
    GlobalItem.ofJson? item.toJson = some item := by
  have hparts : record? [["id"], ["text"]] item.toJson =
      some [some (.string item.id), some (.string item.text)] :=
    Json.record?_written [("id", some (.string item.id)), ("text", some (.string item.text))]
      (by simp)
  rw [GlobalItem.ofJson?, hparts]
  rfl

/-- The parts of a measurement relation. -/
def Indicator.parts (indicator : Indicator) : List (String × Option Json) :=
  [("facetId", some (.string indicator.latentKey)), ("itemId", some indicator.ref.toJson),
    ("direction", some indicator.direction.toJson),
    ("global", if indicator.isGlobal then some (.bool true) else none),
    ("secondOrder", if indicator.isSecondOrder then some (.bool true) else none)]

/-- A relation is written by its parts, of which unset flags are left out. -/
lemma Indicator.toJson_eq_written (indicator : Indicator) :
    indicator.toJson = .object (written indicator.parts) := by
  simp [Indicator.toJson, Indicator.parts, Json.flagField_eq_written, Json.written_cons]

/-- A relation is read back, its flags included. -/
lemma Indicator.ofJson?_toJson (indicator : Indicator) :
    Indicator.ofJson? indicator.toJson = some indicator := by
  have hparts : record? [["facetId"], ["itemId"], ["direction"], ["global"], ["secondOrder"]]
      indicator.toJson = some (indicator.parts.map Prod.snd) := by
    rw [indicator.toJson_eq_written]
    exact Json.record?_written _ (by simp [Indicator.parts])
  simp [Indicator.ofJson?, hparts, Indicator.parts, IndicatorRef.ofJson?_toJson,
    Direction.ofJson?_toJson, Json.orDefault_bool?_flag]

/-- A compiled text is read back with its date. -/
lemma Compiled.ofJson?_toJson (compiled : Compiled) :
    Compiled.ofJson? compiled.toJson = some compiled := by
  have hparts : record? [["syntax"], ["generatedAt"]] compiled.toJson =
      some [some (.string compiled.text), some compiled.generatedAt.toJson] :=
    Json.record?_written [("syntax", some (.string compiled.text)),
      ("generatedAt", some compiled.generatedAt.toJson)] (by simp)
  simp [Compiled.ofJson?, hparts, Timestamp.ofJson?_toJson]

/-! ### Named references -/

/-- A rule names its reference when the indicator whose loading it fixes has an id that is not
blank. -/
def ScalingRule.IsNamed (rule : ScalingRule) : Prop :=
  ∀ id, rule = .fixingLoadingOf id → Text.isBlankText id = false

/-- No rule of a configuration names a blank reference. -/
structure Configuration.HasNamedReferences (configuration : Configuration) : Prop where
  scaling : ∀ (key : String) (rule : ScalingRule),
    configuration.scaling[key]? = some rule → rule.IsNamed
  secondOrder : ∀ rule, configuration.secondOrder.scaling = some rule → rule.IsNamed

/-- A rule without its reference, if that is blank. -/
def ScalingRule.named : ScalingRule → ScalingRule
  | .fixLoading reference => .fixLoading (reference.filter fun id => !Text.isBlankText id)
  | .fixVariance => .fixVariance

/-- A rule that names its reference loses nothing. -/
lemma ScalingRule.IsNamed.named_eq_self {rule : ScalingRule} (h : rule.IsNamed) :
    rule.named = rule := by
  cases rule with
  | fixVariance => rfl
  | fixLoading reference =>
    cases reference with
    | none => rfl
    | some id => simp [ScalingRule.named, h id rfl]

/-- Of a rule everything is read back but a blank reference. -/
lemma ScalingRule.ofJson?_toJson (rule : ScalingRule) :
    ScalingRule.ofJson? rule.toJson = some rule.named := by
  cases rule with
  | fixVariance => rfl
  | fixLoading reference =>
    cases reference with
    | none => rfl
    | some id =>
      have hparts : record? [["method"], ["refItemId"], ["refFacetId"]]
          (ScalingRule.toJson (.fixLoading (some id))) =
            some [some ScalingMethod.fixLoading.toJson, some (.string id), none] :=
        Json.record?_written [("method", some ScalingMethod.fixLoading.toJson),
          ("refItemId", some (.string id)), ("refFacetId", none)] (by simp)
      simp [ScalingRule.ofJson?, hparts, ScalingMethod.ofJson?_toJson, orDefault, nullable?,
        referenceId?, ScalingRule.named]

/-- The mode of the higher-order construct is read back, also when there is none. -/
lemma SecondOrder.mode?_toJson (mode : Option Mode) :
    SecondOrder.mode? (nullable Mode.toJson mode) = some mode := by
  cases mode with
  | none => rfl
  | some mode => cases mode <;> decide

/-! ### Configurations -/

/-- No rule is written as null, which stands for an absent one. -/
lemma ScalingRule.toJson_ne_null (rule : ScalingRule) : rule.toJson ≠ .null := by
  cases rule with
  | fixVariance => simp [ScalingRule.toJson]
  | fixLoading reference => cases reference <;> simp [ScalingRule.toJson]

/-- Global items are read back. -/
lemma list?_globals (items : List GlobalItem) :
    list? GlobalItem.ofJson? (list GlobalItem.toJson items) = some items :=
  Json.list?_list fun item _ => item.ofJson?_toJson

/-- The parts of the settings of a higher-order construct. -/
def SecondOrder.parts (settings : SecondOrder) : List (String × Option Json) :=
  [("type", some (nullable Mode.toJson settings.mode)),
    ("scaling", some (nullable ScalingRule.toJson settings.scaling)),
    ("globalReflective", settings.globals.map (list GlobalItem.toJson))]

/-- The settings of the higher-order construct are written by their parts. -/
lemma SecondOrder.toJson_eq_written (settings : SecondOrder) :
    settings.toJson = .object (written settings.parts) := by
  rw [SecondOrder.toJson, Json.optionalField_eq_written]
  rfl

/-- The settings of a higher-order construct without a blank reference. -/
def SecondOrder.named (settings : SecondOrder) : SecondOrder :=
  { settings with scaling := settings.scaling.map ScalingRule.named }

/-- The settings of the higher-order construct are read back, except that a rule without a reference
loses its blank one. -/
lemma SecondOrder.ofJson?_toJson (settings : SecondOrder) :
    SecondOrder.ofJson? settings.toJson = some settings.named := by
  have hparts : record? [["type"], ["scaling"], ["globalReflective"]] settings.toJson =
      some (settings.parts.map Prod.snd) := by
    rw [settings.toJson_eq_written]
    exact Json.record?_written settings.parts (by simp [SecondOrder.parts])
  have hscaling : orDefault none (nullable? ScalingRule.ofJson?)
      (some (nullable ScalingRule.toJson settings.scaling)) =
        some (settings.scaling.map ScalingRule.named) := by
    cases settings.scaling with
    | none => rfl
    | some rule =>
      have hread : nullable? ScalingRule.ofJson? rule.toJson = some (some rule.named) := by
        rw [Json.nullable?_of_ne_null rule.toJson_ne_null, rule.ofJson?_toJson, Option.map_some]
      exact hread
  have hglobals : orDefault none (nullable? (list? GlobalItem.ofJson?))
      (settings.globals.map (list GlobalItem.toJson)) = some settings.globals :=
    Json.orDefault_nullable?_map fun items _ => ⟨nofun, list?_globals items⟩
  simp [SecondOrder.ofJson?, hparts, SecondOrder.parts, hscaling, hglobals,
    SecondOrder.mode?_toJson, SecondOrder.named]

namespace Configuration

/-- The parts of a configuration. -/
def parts (configuration : Configuration) : List (String × Option Json) :=
  [("facetModes", some (table Mode.toJson configuration.modes)),
    ("facetScaling", some (table ScalingRule.toJson configuration.scaling)),
    ("facetDisabledItems", some (table Json.int64Set configuration.excluded)),
    ("globalReflective", some (table (list GlobalItem.toJson) configuration.globals)),
    ("secondOrder", some configuration.secondOrder.toJson),
    ("overallShortCode", configuration.shortCode.map .string),
    ("indicators", some (list Indicator.toJson configuration.indicators)),
    ("lavaanSpec", configuration.compiled.map Compiled.toJson),
    ("updatedAt", configuration.updatedAt.map Timestamp.toJson)]

/-- A configuration is written by its parts. -/
lemma toJson_eq_written (configuration : Configuration) :
    configuration.toJson = .object (written configuration.parts) := by
  simp [toJson, choiceFields, parts, Json.optionalField_eq_written, Json.written_cons]

/-- A configuration without blank references. -/
def named (configuration : Configuration) : Configuration :=
  { configuration with
    scaling := configuration.scaling.map fun _ rule => rule.named
    secondOrder := configuration.secondOrder.named }

/-- A configuration whose rules name their references loses nothing. -/
lemma HasNamedReferences.named_eq_self {configuration : Configuration}
    (h : configuration.HasNamedReferences) : configuration.named = configuration := by
  have hscaling : (configuration.scaling.map fun _ rule => rule.named) = configuration.scaling := by
    refine Std.ExtTreeMap.ext_getElem? fun key => ?_
    rw [Std.ExtTreeMap.getElem?_map]
    cases hrule : configuration.scaling[key]? with
    | none => rfl
    | some rule => exact congrArg some (h.scaling key rule hrule).named_eq_self
  have hsecondOrder : configuration.secondOrder.named = configuration.secondOrder := by
    unfold SecondOrder.named
    cases hrule : configuration.secondOrder.scaling with
    | none => rw [Option.map_none, ← hrule]
    | some rule => rw [Option.map_some, (h.secondOrder rule hrule).named_eq_self, ← hrule]
  rw [named, hscaling, hsecondOrder]

/-- Of a configuration everything is read back but its blank references. -/
lemma ofJson?_toJson (configuration : Configuration) :
    ofJson? configuration.toJson = some configuration.named := by
  have hparts : record? [["facetModes"], ["facetScaling"], ["facetDisabledItems"],
      ["globalReflective"], ["secondOrder"], ["overallShortCode"], ["indicators"], ["lavaanSpec"],
      ["updatedAt"]] configuration.toJson = some (configuration.parts.map Prod.snd) := by
    rw [toJson_eq_written]
    exact Json.record?_written _ (by simp [parts])
  have hmodes : table? Mode.ofJson? (table Mode.toJson configuration.modes) =
      some configuration.modes :=
    Json.table?_table fun _ mode _ => mode.ofJson?_toJson
  have hscaling : table? ScalingRule.ofJson? (table ScalingRule.toJson configuration.scaling) =
      some (configuration.scaling.map fun _ rule => rule.named) :=
    Json.table?_table_map fun _ rule _ => rule.ofJson?_toJson
  have hexcluded : table? Json.int64Set? (table Json.int64Set configuration.excluded) =
      some configuration.excluded :=
    Json.table?_table fun _ ids _ => Json.int64Set?_int64Set ids
  have hglobals : table? (list? GlobalItem.ofJson?)
      (table (list GlobalItem.toJson) configuration.globals) = some configuration.globals :=
    Json.table?_table fun _ items _ => list?_globals items
  have hshortCode : orDefault none (nullable? Json.string?) (configuration.shortCode.map .string) =
      some configuration.shortCode :=
    Json.orDefault_nullable?_map fun _ _ => ⟨nofun, rfl⟩
  have hindicators : list? Indicator.ofJson? (list Indicator.toJson configuration.indicators) =
      some configuration.indicators :=
    Json.list?_list fun indicator _ => indicator.ofJson?_toJson
  have hcompiled : orDefault none (nullable? Compiled.ofJson?)
      (configuration.compiled.map Compiled.toJson) = some configuration.compiled :=
    Json.orDefault_nullable?_map fun compiled _ => ⟨nofun, compiled.ofJson?_toJson⟩
  have hupdatedAt : orDefault none (nullable? Timestamp.ofJson?)
      (configuration.updatedAt.map Timestamp.toJson) = some configuration.updatedAt :=
    Json.orDefault_nullable?_map fun t _ => ⟨nofun, t.ofJson?_toJson⟩
  simp [ofJson?, hparts, parts, hmodes, hscaling, hexcluded, hglobals, hshortCode, hindicators,
    hcompiled, hupdatedAt, SecondOrder.ofJson?_toJson, named]

/-- From a store too, where the list of facets that is dropped in reading is none of the parts of a
configuration. -/
lemma ofStored?_toJson (configuration : Configuration) :
    ofStored? configuration.toJson = some configuration.named := by
  have hfacets : configuration.toJson.withoutKey "facets" = configuration.toJson := by
    rw [toJson_eq_written]
    exact Json.withoutKey_written_of_not_mem (by simp [parts])
  change ofJson? (configuration.toJson.withoutKey "facets") = some configuration.named
  rw [hfacets, ofJson?_toJson]

/-- A configuration with named references is read back from a store as it is. -/
lemma HasNamedReferences.ofStored?_toJson {configuration : Configuration}
    (h : configuration.HasNamedReferences) :
    ofStored? configuration.toJson = some configuration := by
  rw [Configuration.ofStored?_toJson, h.named_eq_self]

end Configuration

/-! ### What has been read -/

/-- A rule that has been read names its reference: of blank ones nothing is kept. -/
lemma ScalingRule.isNamed_of_ofJson? {value : Json} {rule : ScalingRule}
    (h : ScalingRule.ofJson? value = some rule) : rule.IsNamed := by
  rintro id rfl
  obtain ⟨parts, -, h⟩ := Option.bind_eq_some_iff.mp h
  split at h
  · next method item facet =>
    obtain ⟨method, -, h⟩ := Option.bind_eq_some_iff.mp h
    obtain ⟨item, -, h⟩ := Option.bind_eq_some_iff.mp h
    obtain ⟨facet, -, h⟩ := Option.bind_eq_some_iff.mp h
    cases method with
    | fixVariance => cases h
    | fixLoading =>
      have hread : (item.filter fun id => !Text.isBlankText id).or
          (facet.filter fun id => !Text.isBlankText id) = some id :=
        ScalingRule.fixLoading.inj (Option.some.inj h)
      rcases Option.or_eq_some_iff.mp hread with hitem | ⟨-, hfacet⟩
      · simpa using (Option.filter_eq_some_iff.mp hitem).2
      · simpa using (Option.filter_eq_some_iff.mp hfacet).2
  · cases h

/-- The rule of a higher-order construct whose settings have been read names its reference. -/
lemma SecondOrder.isNamed_of_ofJson? {value : Json} {settings : SecondOrder}
    (h : SecondOrder.ofJson? value = some settings) {rule : ScalingRule}
    (hrule : settings.scaling = some rule) : rule.IsNamed := by
  obtain ⟨parts, -, h⟩ := Option.bind_eq_some_iff.mp h
  split at h
  · obtain ⟨mode, -, h⟩ := Option.bind_eq_some_iff.mp h
    obtain ⟨scaling, hscaling, h⟩ := Option.bind_eq_some_iff.mp h
    obtain ⟨globals, -, h⟩ := Option.bind_eq_some_iff.mp h
    obtain rfl := Option.some.inj h
    obtain rfl : scaling = some rule := hrule
    rcases Json.exists_of_orDefault_eq_some hscaling with hnone | ⟨part, hpart⟩
    · cases hnone
    · exact ScalingRule.isNamed_of_ofJson? (Json.eq_some_of_nullable?_eq_some hpart)
  · cases h

namespace Configuration

/-- The empty configuration has no rule that could lack a reference. -/
lemma hasNamedReferences_empty : HasNamedReferences {} :=
  ⟨fun key rule h => by simp at h, nofun⟩

/-- A configuration that has been read has named references. -/
lemma hasNamedReferences_of_ofJson? {value : Json} {configuration : Configuration}
    (h : ofJson? value = some configuration) : configuration.HasNamedReferences := by
  obtain ⟨parts, -, h⟩ := Option.bind_eq_some_iff.mp h
  split at h
  · obtain ⟨modes, -, h⟩ := Option.bind_eq_some_iff.mp h
    obtain ⟨scaling, hscaling, h⟩ := Option.bind_eq_some_iff.mp h
    obtain ⟨excluded, -, h⟩ := Option.bind_eq_some_iff.mp h
    obtain ⟨globals, -, h⟩ := Option.bind_eq_some_iff.mp h
    obtain ⟨secondOrder, hsecondOrder, h⟩ := Option.bind_eq_some_iff.mp h
    obtain ⟨shortCode, -, h⟩ := Option.bind_eq_some_iff.mp h
    obtain ⟨indicators, -, h⟩ := Option.bind_eq_some_iff.mp h
    obtain ⟨compiled, -, h⟩ := Option.bind_eq_some_iff.mp h
    obtain ⟨updatedAt, -, h⟩ := Option.bind_eq_some_iff.mp h
    obtain rfl := Option.some.inj h
    constructor
    · intro key rule hrule
      rcases Json.exists_of_orDefault_eq_some hscaling with rfl | ⟨part, hpart⟩
      · exact hasNamedReferences_empty.scaling key rule hrule
      · obtain ⟨part, hread⟩ := Json.exists_of_table?_eq_some hpart hrule
        exact ScalingRule.isNamed_of_ofJson? hread
    · intro rule hrule
      rcases Json.exists_of_orDefault_eq_some hsecondOrder with rfl | ⟨part, hpart⟩
      · exact hasNamedReferences_empty.secondOrder rule hrule
      · exact SecondOrder.isNamed_of_ofJson? hpart hrule
  · cases h

/-- A configuration that has been read from a store has named references. -/
lemma hasNamedReferences_of_ofStored? {value : Json} {configuration : Configuration}
    (h : ofStored? value = some configuration) : configuration.HasNamedReferences := by
  unfold ofStored? at h
  split at h
  · obtain rfl := Option.some.inj h
    exact hasNamedReferences_empty
  · exact hasNamedReferences_of_ofJson? h

end Configuration

end Psychometrics
