import Mathlib
import Psychometrics.Cache.Key
import Psychometrics.Listing.Basic
import Psychometrics.Proofs.Configuration.Text
import Psychometrics.Proofs.Json.Unambiguous
import Psychometrics.Proofs.Model.Frame

/-!
# What a key determines

The text that a key of the cache is the digest of determines the options and the model, apart from
what is derived from its choices or stamped at a save, and is determined by them
(`Model.keyText_eq_iff`).  Since the compiled text depends on nothing else, models with one key text
have one compiled text (`Model.text_eq_of_keyText_eq`).

That the text determines its value is a matter of the grammar (`Json.IsPlain.eq_of_compact_eq`).
What is left is that no two choices are written as the same value.
-/

namespace Psychometrics

open Json (IsPlain IsTree int64 int64Set list nullable table)

/-! ### Injective writers -/

namespace Json

variable {α : Type} {read : Json → Option α} {write : α → Json}

/-- What is read back is determined by what was written. -/
lemma injective_of_read (h : ∀ a, read (write a) = some a) : Function.Injective write := by
  intro a b heq
  exact Option.some.inj (by rw [← h a, ← h b, heq])

/-- Lists are written as different arrays when their elements are written differently. -/
lemma list_injective (h : Function.Injective write) : Function.Injective (list write) :=
  fun _ _ heq => List.map_injective_iff.mpr h (Json.array.inj heq)

/-- An absent value is not mistaken for a present one that is never written as null. -/
lemma nullable_injective (h : Function.Injective write) (hne : ∀ a, write a ≠ .null) :
    Function.Injective (nullable write) := by
  intro a b heq
  cases a with
  | none =>
    cases b with
    | none => rfl
    | some b => exact absurd heq.symm (hne b)
  | some a =>
    cases b with
    | none => exact absurd heq (hne a)
    | some b => exact congrArg some (h heq)

/-- An absent text differs from every text, the empty one included. -/
lemma nullable_string_injective : Function.Injective (nullable .string) :=
  nullable_injective (fun _ _ => Json.string.inj) (by simp)

/-- Tables are written as different objects when their values are written differently. -/
lemma table_injective (h : Function.Injective write) :
    Function.Injective (table write : Std.ExtTreeMap String α → Json) := by
  intro s t heq
  have hentry : Function.Injective fun entry : String × α => (entry.1, write entry.2) := by
    intro a b hab
    exact Prod.ext (Prod.mk.inj hab).1 (h (Prod.mk.inj hab).2)
  have hlist : s.toList = t.toList := List.map_injective_iff.mpr hentry (Json.object.inj heq)
  rw [← ofList_toList s, hlist, ofList_toList]

/-- Different integers are written as different numbers. -/
lemma int64_injective : Function.Injective int64 :=
  injective_of_read int64?_int64

/-- Different sets of integers are written as different arrays. -/
lemma int64Set_injective : Function.Injective int64Set :=
  injective_of_read int64Set?_int64Set

/-- Trees are plain. -/
lemma IsTree.isPlain {v : Json} {depth : Nat} (h : v.IsTree depth) : v.IsPlain := by
  induction h with
  | null => exact .null
  | bool b => exact .bool b
  | int h => exact .int _
  | string s => exact .string s
  | array h ih => exact .array ih
  | object nodup h ih => exact .object ih

end Json

/-! ### Instruments and options -/

/-- Different constructs are written differently. -/
lemma Construct.toJson_injective : Function.Injective Construct.toJson := by
  intro a b h
  simp only [toJson, Json.object.injEq, List.cons.injEq, Prod.mk.injEq, Json.string.injEq] at h
  obtain ⟨⟨-, hname⟩, ⟨-, hdefinition⟩, -⟩ := h
  cases a
  cases b
  simp_all

/-- Different facets are written differently, an absent code differing from an empty one. -/
lemma Facet.toJson_injective : Function.Injective Facet.toJson := by
  intro a b h
  simp only [toJson, Json.object.injEq, List.cons.injEq, Prod.mk.injEq, Json.string.injEq] at h
  obtain ⟨⟨-, hid⟩, ⟨-, hname⟩, ⟨-, hcode⟩, ⟨-, hdefinition⟩, -⟩ := h
  have hcode := Json.nullable_string_injective hcode
  have hdefinition := Json.nullable_string_injective hdefinition
  cases a
  cases b
  simp_all

/-- Different items are written differently. -/
lemma Item.toJson_injective : Function.Injective Item.toJson := by
  intro a b h
  simp only [toJson, Json.object.injEq, List.cons.injEq, Prod.mk.injEq, Json.string.injEq] at h
  obtain ⟨⟨-, hid⟩, ⟨-, htext⟩, ⟨-, hfacetId⟩, -⟩ := h
  have hid := Json.int64_injective hid
  have hfacetId := Json.nullable_string_injective hfacetId
  cases a
  cases b
  simp_all

/-- Different instruments are written differently. -/
lemma Instrument.toJson_injective : Function.Injective Instrument.toJson := by
  intro a b h
  simp only [toJson, Json.object.injEq, List.cons.injEq, Prod.mk.injEq] at h
  obtain ⟨⟨-, hconstruct⟩, ⟨-, hdimensionality⟩, ⟨-, hfacets⟩, ⟨-, hitems⟩, -⟩ := h
  have hconstruct := Construct.toJson_injective hconstruct
  have hdimensionality := Json.nullable_string_injective hdimensionality
  have hfacets := Json.list_injective Facet.toJson_injective hfacets
  have hitems := Json.list_injective Item.toJson_injective hitems
  cases a
  cases b
  simp_all

/-- Different options of a listing are written differently. -/
lemma ListingOptions.toJson_injective : Function.Injective ListingOptions.toJson := by
  intro a b h
  simp only [toJson, Json.int, Json.object.injEq, List.cons.injEq, Prod.mk.injEq, Json.bool.injEq,
    Json.number.injEq, Json.Number.integer.injEq, Int.ofNat_inj] at h
  obtain ⟨⟨-, hlegend⟩, ⟨-, hwidth⟩, ⟨-, hcomments⟩, -⟩ := h
  cases a
  cases b
  simp_all

/-- Instruments are written as trees three levels deep. -/
lemma Instrument.isTree_toJson {depth : Nat} (instrument : Instrument) :
    instrument.toJson.IsTree (depth + 3) := by
  have hnullable : ∀ s, IsTree (depth + 2) (nullable .string s) :=
    Json.isTree_nullable IsTree.string
  have hconstruct : IsTree (depth + 2) instrument.construct.toJson :=
    .object (by simp) (by simp [IsTree.string])
  have hfacet : ∀ facet : Facet, IsTree (depth + 1) facet.toJson := fun facet =>
    .object (by simp) (by simp [IsTree.string, Json.isTree_nullable IsTree.string])
  have hitem : ∀ item : Item, IsTree (depth + 1) item.toJson := fun item =>
    .object (by simp)
      (by simp [IsTree.string, Json.isTree_int64, Json.isTree_nullable IsTree.string])
  have hfacets := Json.isTree_list hfacet instrument.facets
  have hitems := Json.isTree_list hitem instrument.items
  exact .object (by simp) (by simp [hnullable, hconstruct, hfacets, hitems])

/-- The width of a legend is not bounded by a word, so that options need not be a tree. -/
lemma ListingOptions.isPlain_toJson (options : ListingOptions) : options.toJson.IsPlain :=
  .object (by simp [IsPlain.bool, IsPlain.int])

/-! ### Choices -/

/-- The two modes are written differently. -/
lemma Mode.toJson_injective : Function.Injective Mode.toJson :=
  Json.injective_of_read Mode.ofJson?_toJson

/-- Different rules are written differently, those without a reference included. -/
lemma ScalingRule.toJson_injective : Function.Injective ScalingRule.toJson := by
  intro a b h
  rcases a with (_ | _) | _ <;> rcases b with (_ | _) | _ <;>
    simp_all [toJson, ScalingMethod.toJson, ScalingMethod.name]

/-- Different global items are written differently. -/
lemma GlobalItem.toJson_injective : Function.Injective GlobalItem.toJson :=
  Json.injective_of_read GlobalItem.ofJson?_toJson

/-- Different settings of the higher-order construct are written differently. -/
lemma SecondOrder.toJson_injective : Function.Injective SecondOrder.toJson := by
  intro a b h
  rw [a.toJson_eq_written, b.toJson_eq_written] at h
  have hparts :=
    Json.map_snd_eq_of_written_eq (by simp [parts]) (by simp [parts]) (Json.object.inj h)
  simp only [parts, List.map_cons, List.cons.injEq, Option.some.injEq] at hparts
  obtain ⟨hmode, hscaling, hglobals, -⟩ := hparts
  have hmode := Json.nullable_injective Mode.toJson_injective (by simp [Mode.toJson]) hmode
  have hscaling :=
    Json.nullable_injective ScalingRule.toJson_injective ScalingRule.toJson_ne_null hscaling
  have hglobals := Option.map_injective (Json.list_injective GlobalItem.toJson_injective) hglobals
  cases a
  cases b
  simp_all

/-- Configurations with the same choices in writing differ only in their short code and in what is
derived or stamped. -/
lemma Configuration.eq_of_choiceFields_eq {a b : Configuration}
    (h : a.choiceFields = b.choiceFields) :
    a.modes = b.modes ∧ a.scaling = b.scaling ∧ a.excluded = b.excluded ∧ a.globals = b.globals ∧
      a.secondOrder = b.secondOrder := by
  simp only [choiceFields, List.cons.injEq, Prod.mk.injEq] at h
  obtain ⟨⟨-, hmodes⟩, ⟨-, hscaling⟩, ⟨-, hexcluded⟩, ⟨-, hglobals⟩, ⟨-, hsecondOrder⟩, -⟩ := h
  exact ⟨Json.table_injective Mode.toJson_injective hmodes,
    Json.table_injective ScalingRule.toJson_injective hscaling,
    Json.table_injective Json.int64Set_injective hexcluded,
    Json.table_injective (Json.list_injective GlobalItem.toJson_injective) hglobals,
    SecondOrder.toJson_injective hsecondOrder⟩

/-! ### Keys -/

namespace Model

variable {m n : Model} {options other : ListingOptions}

/-- What a key text is the text of. -/
def keyValue (m : Model) (options : ListingOptions) : Json :=
  .object (("inputs", m.instrument.toJson) :: m.configuration.choiceFields ++
    [("overallShortCode", nullable .string m.configuration.shortCode),
      ("options", options.toJson)])

/-- The key text is the compact form of one value. -/
lemma keyText_eq_compact (m : Model) (options : ListingOptions) :
    m.keyText options = (m.keyValue options).compact := rfl

/-- A key as the digest of bytes, which computes faster than by way of the text. -/
lemma key_eq_digest (m : Model) (options : ListingOptions) :
    m.key options =
      Sha256.digest ((m.keyValue options).chars.flatMap String.utf8EncodeChar) := by
  rw [key, keyText_eq_compact, Json.compact, Sha256.ofText, String.toUTF8_eq_toByteArray,
    String.toByteArray_ofList, List.utf8Encode, List.data_toByteArray]

/-- What is hashed for a key is plain. -/
lemma isPlain_keyValue (m : Model) (options : ListingOptions) : (m.keyValue options).IsPlain := by
  have hinstrument : IsTree 3 m.instrument.toJson := m.instrument.isTree_toJson
  have hshortCode : IsTree 0 (nullable .string m.configuration.shortCode) :=
    Json.isTree_nullable IsTree.string _
  have hchoices : ∀ field ∈ m.configuration.choiceFields, IsTree 3 field.2 :=
    fun _ => Configuration.isTree_of_mem_choiceFields
  refine .object fun field hfield => ?_
  simp only [List.cons_append, List.mem_cons, List.mem_append, List.not_mem_nil, or_false] at hfield
  rcases hfield with rfl | hfield | rfl | rfl
  · exact hinstrument.isPlain
  · exact (hchoices field hfield).isPlain
  · exact hshortCode.isPlain
  · exact options.isPlain_toJson

/-- Models with the same choices have the same key text. -/
lemma keyText_eq_of_choices_eq (h : m.choices = n.choices) (options : ListingOptions) :
    m.keyText options = n.keyText options := by
  calc m.keyText options = m.choices.keyText options := rfl
    _ = n.choices.keyText options := by rw [h]
    _ = n.keyText options := rfl

/-- A key text determines the options and the choices of the model. -/
lemma choices_eq_of_keyText_eq (h : m.keyText options = n.keyText other) :
    m.choices = n.choices ∧ options = other := by
  have hvalue : m.keyValue options = n.keyValue other :=
    (m.isPlain_keyValue options).eq_of_compact_eq (n.isPlain_keyValue other) h
  simp only [keyValue, Json.object.injEq, List.cons_append, List.cons.injEq, Prod.mk.injEq,
    true_and] at hvalue
  obtain ⟨hinstrument, hfields⟩ := hvalue
  obtain ⟨hchoices, hlast⟩ := List.append_inj hfields rfl
  simp only [List.cons.injEq, Prod.mk.injEq, true_and, and_true] at hlast
  have hinstrument := Instrument.toJson_injective hinstrument
  have hshortCode := Json.nullable_string_injective hlast.1
  obtain ⟨hmodes, hscaling, hexcluded, hglobals, hsecondOrder⟩ :=
    Configuration.eq_of_choiceFields_eq hchoices
  exact ⟨choices_eq_iff.mpr
    ⟨hinstrument, hmodes, hscaling, hexcluded, hglobals, hsecondOrder, hshortCode⟩,
    ListingOptions.toJson_injective hlast.2⟩

/-- Two key texts are the same exactly when the options are the same and the models have the same
instrument, modes, scaling rules, exclusions, global items, settings of the higher-order construct
and short code.  Names, texts and keys may hold any characters, those that the text itself is built
from included; and what is absent differs from what is empty. -/
theorem keyText_eq_iff (m n : Model) (options other : ListingOptions) :
    m.keyText options = n.keyText other ↔
      m.instrument = n.instrument ∧
      m.configuration.modes = n.configuration.modes ∧
      m.configuration.scaling = n.configuration.scaling ∧
      m.configuration.excluded = n.configuration.excluded ∧
      m.configuration.globals = n.configuration.globals ∧
      m.configuration.secondOrder = n.configuration.secondOrder ∧
      m.configuration.shortCode = n.configuration.shortCode ∧
      options = other := by
  have hiff : m.keyText options = n.keyText other ↔ m.choices = n.choices ∧ options = other := by
    refine ⟨choices_eq_of_keyText_eq, ?_⟩
    rintro ⟨hchoices, rfl⟩
    exact keyText_eq_of_choices_eq hchoices options
  rw [hiff, choices_eq_iff]
  simp only [and_assoc]

/-- A name that spells the rest of its own record does not stand for that record. -/
example :
    keyText { instrument.construct.name := "a\",\"savedDefinition\":\"b" } {} ≠
      keyText { instrument.construct := ⟨"a", "b"⟩ } {} := by
  decide +kernel

/-- Models with the same choices have the same compiled text. -/
lemma text_eq_of_choices_eq (h : m.choices = n.choices) (options : ListingOptions) :
    m.text options = n.text options := by
  calc m.text options = m.choices.text options := rfl
    _ = n.choices.text options := by rw [h]
    _ = n.text options := rfl

/-- Models with one key text have one compiled text. -/
lemma text_eq_of_keyText_eq (h : m.keyText options = n.keyText other) :
    m.text options = n.text other := by
  obtain ⟨hchoices, rfl⟩ := choices_eq_of_keyText_eq h
  exact text_eq_of_choices_eq hchoices options

end Model

end Psychometrics
