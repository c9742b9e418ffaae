import Mathlib
import Psychometrics.Proofs.Configuration.Roundtrip
import Psychometrics.Proofs.Json.Roundtrip

/-!
# Configurations in text

The text of a configuration is read back as that configuration exactly when the configuration has
named references, and every configuration that has been read from a text has them
(`Configuration.parse?_compact_toJson`).  Texts of older forms, of which many say the same, are thus
brought into a form that reading and writing no longer change.

The reader asks that what was written is a tree.  Every writer writes one, with containers nested at
most four deep, which is far below the bound of the reader.
-/

namespace Psychometrics

open Json (IsTree list nullable)

variable {depth : Nat}

/-! ### Records -/

/-- A mode is a leaf. -/
lemma Mode.isTree_toJson (mode : Mode) : mode.toJson.IsTree depth :=
  .string _

/-- What a relation refers to is a leaf. -/
lemma IndicatorRef.isTree_toJson (ref : IndicatorRef) : ref.toJson.IsTree depth := by
  cases ref with
  | item id => exact Json.isTree_int64 id
  | named id => exact .string id

/-- A direction is a leaf. -/
lemma Direction.isTree_toJson (direction : Direction) : direction.toJson.IsTree depth := by
  cases direction <;> exact .string _

/-- A rule is an object of leaves. -/
lemma ScalingRule.isTree_toJson (rule : ScalingRule) : rule.toJson.IsTree (depth + 1) := by
  cases rule with
  | fixVariance => exact .object (by simp) (by simp [ScalingMethod.toJson, IsTree.string])
  | fixLoading reference =>
    cases reference <;> exact .object (by simp) (by simp [ScalingMethod.toJson, IsTree.string])

/-- A global item is an object of leaves. -/
lemma GlobalItem.isTree_toJson (item : GlobalItem) : item.toJson.IsTree (depth + 1) :=
  .object (by simp) (by simp [IsTree.string])

/-- A compiled text is an object of leaves. -/
lemma Compiled.isTree_toJson (compiled : Compiled) : compiled.toJson.IsTree (depth + 1) :=
  .object (by simp) (by simp [Timestamp.toJson, IsTree.string])

/-- A relation is an object of leaves. -/
lemma Indicator.isTree_toJson (indicator : Indicator) : indicator.toJson.IsTree (depth + 1) := by
  rw [indicator.toJson_eq_written]
  refine Json.isTree_written (by simp [parts]) ?_
  simp [parts, IsTree.string, IsTree.bool, indicator.ref.isTree_toJson,
    indicator.direction.isTree_toJson]

/-- The settings of the higher-order construct hold lists of objects. -/
lemma SecondOrder.isTree_toJson (settings : SecondOrder) : settings.toJson.IsTree (depth + 3) := by
  have hmode : IsTree (depth + 2) (nullable Mode.toJson settings.mode) :=
    Json.isTree_nullable Mode.isTree_toJson _
  have hscaling : IsTree (depth + 2) (nullable ScalingRule.toJson settings.scaling) :=
    Json.isTree_nullable ScalingRule.isTree_toJson _
  have hglobals : ∀ items, IsTree (depth + 2) (list GlobalItem.toJson items) :=
    Json.isTree_list GlobalItem.isTree_toJson
  rw [settings.toJson_eq_written]
  refine Json.isTree_written (by simp [parts]) ?_
  simp [parts, hmode, hscaling, hglobals]

/-! ### Configurations -/

namespace Configuration

/-- The choices of a configuration are tables of trees. -/
lemma isTree_of_mem_choiceFields {configuration : Configuration} {field : String × Json}
    (h : field ∈ configuration.choiceFields) : field.2.IsTree (depth + 3) := by
  simp only [choiceFields, List.mem_cons, List.not_mem_nil, or_false] at h
  rcases h with rfl | rfl | rfl | rfl | rfl
  · exact Json.isTree_table Mode.isTree_toJson _
  · exact Json.isTree_table ScalingRule.isTree_toJson _
  · exact Json.isTree_table Json.isTree_int64Set _
  · exact Json.isTree_table (Json.isTree_list GlobalItem.isTree_toJson) _
  · exact configuration.secondOrder.isTree_toJson

/-- A configuration is written as a tree four levels deep. -/
lemma isTree_toJson (configuration : Configuration) :
    configuration.toJson.IsTree (depth + 4) := by
  have hchoices : ∀ field ∈ configuration.choiceFields, field.2.IsTree (depth + 3) :=
    fun _ => isTree_of_mem_choiceFields
  have hindicators : IsTree (depth + 3) (list Indicator.toJson configuration.indicators) :=
    Json.isTree_list Indicator.isTree_toJson _
  simp only [choiceFields, List.forall_mem_cons] at hchoices
  rw [configuration.toJson_eq_written]
  refine Json.isTree_written (by simp [parts]) ?_
  simp [parts, hchoices, hindicators, IsTree.string, Timestamp.toJson, Compiled.isTree_toJson]

/-- From text too, everything is read back but blank references. -/
lemma parse?_compact_eq_named (configuration : Configuration) :
    parse? configuration.toJson.compact = some configuration.named := by
  have htree : configuration.toJson.IsTree Json.maxDepth := configuration.isTree_toJson
  rw [parse?, htree.parseTree?_compact, Option.bind_some, ofStored?_toJson]

/-- A configuration loses nothing in writing exactly when its rules name their references. -/
lemma named_eq_self_iff {configuration : Configuration} :
    configuration.named = configuration ↔ configuration.HasNamedReferences := by
  refine ⟨fun h => ?_, HasNamedReferences.named_eq_self⟩
  exact hasNamedReferences_of_ofStored? (h ▸ configuration.ofStored?_toJson)

/-- The text of a configuration is read back as that configuration exactly when the configuration
has named references.  A configuration that has been read from some text has them, so that it is
read again from its own text. -/
theorem parse?_compact_toJson :
    (∀ configuration : Configuration,
      parse? configuration.toJson.compact = some configuration ↔
        configuration.HasNamedReferences) ∧
    ∀ (text : String) (configuration : Configuration), parse? text = some configuration →
      configuration.HasNamedReferences ∧
        parse? configuration.toJson.compact = some configuration := by
  have hiff : ∀ configuration : Configuration,
      parse? configuration.toJson.compact = some configuration ↔
        configuration.HasNamedReferences := by
    intro configuration
    rw [parse?_compact_eq_named, Option.some.injEq, named_eq_self_iff]
  refine ⟨hiff, fun text configuration h => ?_⟩
  obtain ⟨value, -, hread⟩ := Option.bind_eq_some_iff.mp h
  have hnamed := hasNamedReferences_of_ofStored? hread
  exact ⟨hnamed, (hiff configuration).mpr hnamed⟩

/-- A text of an older form: a facet's rule with a blank reference to an item and a number as its
reference to a facet, a word for the absent higher-order construct, and a list of facets. -/
def olderText : String :=
  "\x7b\"facetScaling\":\x7b\"f\":\x7b\"method\":\"fix_loading\",\"refItemId\":\" \"," ++
    "\"refFacetId\":7\x7d\x7d,\"secondOrder\":\x7b\"type\":\"none\"\x7d,\"facets\":[]\x7d"

/-- What the older text says. -/
def olderConfiguration : Configuration :=
  { scaling := (∅ : Table ScalingRule).insert "f" (.fixingLoadingOf "7") }

/-- The older text is read as the configuration it stands for. -/
lemma parse?_olderText : parse? olderText = some olderConfiguration := by
  decide +kernel

/-- The configuration that is read from the older text is read back from what it is written as. -/
theorem parse?_compact_toJson_olderText :
    parse? olderText = some olderConfiguration ∧ olderConfiguration.HasNamedReferences ∧
      parse? olderConfiguration.toJson.compact = some olderConfiguration :=
  ⟨parse?_olderText, parse?_compact_toJson.2 olderText olderConfiguration parse?_olderText⟩

end Configuration

end Psychometrics
