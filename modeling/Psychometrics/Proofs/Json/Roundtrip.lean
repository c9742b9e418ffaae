import Mathlib
import Psychometrics.Proofs.Json.Scan

/-!
# Reading back compact texts

A tree is read back from its compact text: the reader finds its tokens, builds the value from them
container by container, and finds nothing to settle in it (`Json.IsTree.parseTree?_compact`).

While the reader builds a value, the containers around it wait on a stack.  The statement about a
value in the midst of a text is that its tokens hand it to the innermost of them.
-/

namespace Psychometrics.Json

/-! ### Values from tokens -/

namespace Reader

/-- The reader after a list of tokens. -/
def feed (reader : Reader) (tokens : List Token) : Option Reader :=
  tokens.foldlM step reader

section Feed

variable {reader next : Reader} {token : Token} {tokens rest : List Token}

/-- A reader that takes a token goes on with those that follow. -/
lemma feed_cons_of_step (h : reader.step token = some next) :
    reader.feed (token :: tokens) = next.feed tokens := by
  simp [feed, h]

/-- A reader that takes some tokens goes on with those that follow. -/
lemma feed_append_of_feed (h : reader.feed tokens = some next) :
    reader.feed (tokens ++ rest) = next.feed rest := by
  rw [feed] at h
  simp [feed, h]

/-- To feed one token is to take one step. -/
lemma feed_singleton : reader.feed [token] = reader.step token := by
  simp [feed]

end Feed

/-- The tokens of a value hand it to the container that waits for it. -/
def Delivers (value : Json) : Prop :=
  ∀ stack, (expectValue stack).feed value.tokens = deliver value stack

/-- Where an array may have its first item or its end, a value is read as elsewhere. -/
lemma feed_expectFirstItem {value : Json} {depth : Nat} (hv : value.IsTree depth)
    (stack : List Frame) :
    (expectFirstItem stack).feed value.tokens = (expectValue stack).feed value.tokens := by
  have hfirst : ∃ token tokens, value.tokens = token :: tokens ∧ token ≠ .rightBracket := by
    cases hv with
    | null => exact ⟨_, _, tokens.eq_1, by simp⟩
    | bool b => exact ⟨_, _, tokens.eq_2 b, by simp⟩
    | int h => exact ⟨_, _, tokens.eq_3 _, by simp⟩
    | string s => exact ⟨_, _, tokens.eq_4 s, by simp⟩
    | array h => exact ⟨_, _, tokens.eq_5 _, by simp⟩
    | object nodup h => exact ⟨_, _, tokens.eq_6 _, by simp⟩
  obtain ⟨token, tokens, htokens, hne⟩ := hfirst
  have hstep : step (expectFirstItem stack) token = step (expectValue stack) token := by
    cases token <;> simp_all [step]
  rw [htokens, feed, feed, List.foldlM_cons, List.foldlM_cons, hstep]

variable (stack : List Frame)

/-! ### Arrays -/

/-- After an item, the other items of an array are read one by one. -/
lemma feed_items {items : List Json} (h : ∀ item ∈ items, Delivers item) (reversed : List Json) :
    (afterItem (.array reversed :: stack)).feed
        (items.flatMap fun item => .comma :: item.tokens) =
      some (afterItem (.array (items.reverse ++ reversed) :: stack)) := by
  induction items generalizing reversed with
  | nil => rfl
  | cons item items ih =>
    have hcomma : step (afterItem (.array reversed :: stack)) .comma =
        some (expectValue (.array reversed :: stack)) := rfl
    have hitem : (expectValue (.array reversed :: stack)).feed item.tokens =
        some (afterItem (.array (item :: reversed) :: stack)) := h item List.mem_cons_self _
    rw [List.flatMap_cons, List.cons_append, feed_cons_of_step hcomma, feed_append_of_feed hitem,
      ih fun other hother => h other (List.mem_cons_of_mem _ hother)]
    simp

/-- An array is delivered when its items are. -/
lemma delivers_array {depth : Nat} {items : List Json}
    (hitems : ∀ item ∈ items, IsTree depth item) (h : ∀ item ∈ items, Delivers item) :
    Delivers (.array items) := by
  intro stack
  have hopen : step (expectValue stack) .leftBracket =
      some (expectFirstItem (.array [] :: stack)) := rfl
  rw [tokens, itemTokens_eq_separated, feed_cons_of_step hopen]
  cases items with
  | nil => exact feed_singleton
  | cons item items =>
    have hitem : (expectFirstItem (.array [] :: stack)).feed item.tokens =
        some (afterItem (.array [item] :: stack)) := by
      rw [feed_expectFirstItem (hitems item List.mem_cons_self)]
      exact h item List.mem_cons_self _
    have hrest := feed_items stack
      (fun other hother => h other (List.mem_cons_of_mem _ hother)) [item]
    rw [separated, List.append_assoc, feed_append_of_feed hitem, feed_append_of_feed hrest,
      feed_singleton]
    simp [step, close?]

/-! ### Objects -/

/-- The tokens of a field, once its key is expected, hand its value to the object. -/
lemma feed_field {field : String × Json} (h : Delivers field.2)
    (reversed : List (Option String × Json)) :
    (expectKey (.object reversed :: stack)).feed (tokensOfField field) =
        some (afterItem (.object ((some field.1, field.2) :: reversed) :: stack)) ∧
      (expectFirstKey (.object reversed :: stack)).feed (tokensOfField field) =
        some (afterItem (.object ((some field.1, field.2) :: reversed) :: stack)) := by
  have hcolon : step (expectColon (some field.1) (.object reversed :: stack)) .colon =
      some (expectValue (.field reversed (some field.1) :: stack)) := rfl
  have hvalue := h (.field reversed (some field.1) :: stack)
  constructor
  · rw [tokensOfField, feed_cons_of_step rfl, feed_cons_of_step hcolon, hvalue]
    rfl
  · rw [tokensOfField, feed_cons_of_step rfl, feed_cons_of_step hcolon, hvalue]
    rfl

/-- After a field, the other fields of an object are read one by one. -/
lemma feed_fields {fields : List (String × Json)} (h : ∀ field ∈ fields, Delivers field.2)
    (reversed : List (Option String × Json)) :
    (afterItem (.object reversed :: stack)).feed
        (fields.flatMap fun field => .comma :: tokensOfField field) =
      some (afterItem (.object
        ((fields.map fun field => (some field.1, field.2)).reverse ++ reversed) :: stack)) := by
  induction fields generalizing reversed with
  | nil => rfl
  | cons field fields ih =>
    have hcomma : step (afterItem (.object reversed :: stack)) .comma =
        some (expectKey (.object reversed :: stack)) := rfl
    obtain ⟨hfield, -⟩ := feed_field stack (h field List.mem_cons_self) reversed
    rw [List.flatMap_cons, List.cons_append, feed_cons_of_step hcomma, feed_append_of_feed hfield,
      ih fun other hother => h other (List.mem_cons_of_mem _ hother)]
    simp

/-- Fields with well-formed keys make an object. -/
lemma ofFields_map (fields : List (String × Json)) :
    ofFields (fields.map fun field => (some field.1, field.2)) = .object fields := by
  have hkeys : (fields.map fun field => (some field.1, field.2)).mapM
      (fun field : Option String × Json => field.1.map fun key => (key, field.2)) =
        some fields := by
    induction fields with
    | nil => rfl
    | cons field fields ih => simp [ih]
  rw [ofFields, hkeys]

/-- An object is delivered when the values of its fields are. -/
lemma delivers_object {fields : List (String × Json)} (h : ∀ field ∈ fields, Delivers field.2) :
    Delivers (.object fields) := by
  intro stack
  have hopen : step (expectValue stack) .leftBrace =
      some (expectFirstKey (.object [] :: stack)) := rfl
  rw [tokens, fieldTokens_eq_separated, feed_cons_of_step hopen]
  cases fields with
  | nil => exact feed_singleton
  | cons field fields =>
    obtain ⟨-, hfield⟩ := feed_field stack (h field List.mem_cons_self) []
    have hrest := feed_fields stack
      (fun other hother => h other (List.mem_cons_of_mem _ hother)) [(some field.1, field.2)]
    have hclose := congrArg (deliver · stack) (ofFields_map (field :: fields))
    rw [separated, List.append_assoc, feed_append_of_feed hfield, feed_append_of_feed hrest,
      feed_singleton]
    simpa [step, close?] using hclose

end Reader

/-- The reader builds a tree from its tokens. -/
lemma IsTree.delivers {v : Json} {depth : Nat} (hv : v.IsTree depth) : Reader.Delivers v := by
  induction hv with
  | null => exact fun stack => by rw [tokens, Reader.feed_singleton]; rfl
  | bool b => exact fun stack => by rw [tokens, Reader.feed_singleton]; rfl
  | int h => exact fun stack => by rw [Json.int, tokens, Reader.feed_singleton]; rfl
  | string s => exact fun stack => by rw [tokens, Reader.feed_singleton]; rfl
  | array h ih => exact Reader.delivers_array h ih
  | object nodup h ih => exact Reader.delivers_object ih

/-- A tree is read back from its compact text, with its fields as written. -/
lemma IsTree.parse?_compact {v : Json} {depth : Nat} (hv : v.IsTree depth) :
    parse? v.compact = some v := by
  have htokens : ofTokens? v.tokens = some v := by
    have hfeed : v.tokens.foldlM Reader.step (.expectValue []) = some (.done v) := hv.delivers []
    rw [ofTokens?, hfeed]
    rfl
  rw [parse?, compact, String.toList_ofList, hv.scan?_chars, Option.bind_some, htokens]

/-! ### Nothing to settle -/

/-- Fields without repeated keys are all kept. -/
lemma lastFields_eq_self {fields : List (String × Json)} (h : (fields.map Prod.fst).Nodup) :
    lastFields fields = fields := by
  induction fields with
  | nil => rfl
  | cons field rest ih =>
    rw [List.map_cons, List.nodup_cons] at h
    have hnone : (rest.any fun later => later.1 == field.1) = false := by
      rw [List.any_eq_false]
      intro later hlater
      rw [beq_iff_eq]
      rintro heq
      exact h.1 (heq ▸ List.mem_map_of_mem hlater)
    rw [lastFields, hnone, if_neg Bool.false_ne_true, ih h.2]

/-- A tree is resolved to itself. -/
lemma IsTree.resolveWithin_eq {v : Json} {depth : Nat} (hv : v.IsTree depth) :
    resolveWithin depth v = some v := by
  induction hv with
  | null => rfl
  | bool b => rfl
  | int h => rfl
  | string s => rfl
  | @array depth items h ih =>
    have hitems : resolveItems depth items = some items := by
      clear h
      induction items with
      | nil => rfl
      | cons item items ihitems =>
        rw [resolveItems, ih item List.mem_cons_self,
          ihitems fun other hother => ih other (List.mem_cons_of_mem _ hother)]
        rfl
    rw [resolveWithin, hitems, Option.map_some]
  | @object depth fields nodup h ih =>
    have hfields : resolveFields depth fields = some fields := by
      clear h nodup
      induction fields with
      | nil => rfl
      | cons field fields ihfields =>
        rw [resolveFields, ih field List.mem_cons_self,
          ihfields fun other hother => ih other (List.mem_cons_of_mem _ hother)]
        rfl
    rw [resolveWithin, hfields, Option.map_some, lastFields_eq_self nodup]

/-- A tree is read back from its compact text. -/
lemma IsTree.parseTree?_compact {v : Json} (hv : v.IsTree maxDepth) :
    parseTree? v.compact = some v := by
  rw [parseTree?, hv.parse?_compact, Option.bind_some]
  exact hv.resolveWithin_eq

end Psychometrics.Json
