import Psychometrics.Proofs.Report.Valid
import Psychometrics.Proofs.Statement.Keyed

/-!
# Valid models are measured

The report counts the active items and the present global items of a latent variable, and the
compiler collects its indicators from the relations of the model.  The two agree where it matters:
in a valid model every latent variable below the higher-order construct has one reflective
statement, with two indicators at least, and the fallback for a latent variable without any global
item is never needed (`Model.measured_of_isValid`).
-/

namespace Psychometrics

namespace Statement

/-- A statement that says in which indicators a latent variable shows. -/
def isReflective : Statement → Bool
  | .reflective _ _ _ => true
  | _ => false

/-- A statement that says in which indicators the latent variable with a given name shows. -/
def isReflectiveOf (name : String) : Statement → Bool
  | .reflective latent _ _ => latent == name
  | _ => false

/-- What is said of a latent variable without global items. -/
def fallbackText : String :=
  " has no global reflective indicators; variance fixed to keep it identified"

/-- The comment on a latent variable whose variance is fixed because it has no global items. -/
def fallback (latent : String) : Statement :=
  .comment (latent ++ fallbackText)

variable {s : Statement} {name : String}

/-- A reflective statement has a meaning. -/
lemma isMeaningful_of_isReflective (h : s.isReflective = true) : s.isMeaningful = true := by
  cases s with
  | reflective latent indicators fixedFirst => rfl
  | _ => cases h

/-- A reflective statement of a variable is about that variable. -/
lemma subject?_of_isReflectiveOf (h : s.isReflectiveOf name = true) : s.subject? = some name := by
  cases s with
  | reflective latent indicators fixedFirst => exact congrArg some (beq_iff_eq.mp h)
  | _ => cases h

/-- A reflective statement of a variable has a meaning. -/
lemma isMeaningful_of_isReflectiveOf (h : s.isReflectiveOf name = true) : s.isMeaningful = true :=
  isMeaningful_of_subject?_eq_some (subject?_of_isReflectiveOf h)

end Statement

/-! ### Comments -/

/-- A comment in a layout is a heading, if no section holds comments. -/
lemma Section.exists_heading_of_mem_layOut {comments : Bool} {sections : List Section}
    (hbody : ∀ part ∈ sections, ∀ text, Statement.comment text ∉ part.body) {text : String}
    (h : Statement.comment text ∈ layOut comments sections) :
    ∃ part ∈ sections, part.heading = text := by
  cases comments with
  | false =>
    rw [layOut, if_neg Bool.false_ne_true] at h
    obtain ⟨part, hpart, h⟩ := List.mem_flatMap.mp h
    exact absurd h (hbody part hpart text)
  | true =>
    rw [layOut, if_pos rfl] at h
    refine Text.forall_mem_intercalate
      (p := fun s => s = .comment text → ∃ part ∈ sections, part.heading = text) ?_ ?_ _ h rfl
    · intro s hs heq
      rw [List.mem_singleton.mp hs] at heq
      cases heq
    · intro headed hheaded s hs heq
      obtain ⟨part, hpart, rfl⟩ := List.mem_map.mp hheaded
      rcases List.mem_cons.mp hs with rfl | hs
      · exact ⟨part, hpart, Statement.comment.inj heq⟩
      · exact absurd (heq ▸ hs) (hbody part hpart text)

/-- A comment that is neither a heading nor in a section does not stand in the layout. -/
lemma Section.comment_not_mem_layOut {comments : Bool} {sections : List Section} {text : String}
    (hheading : ∀ part ∈ sections, part.heading ≠ text)
    (hbody : ∀ part ∈ sections, ∀ text, Statement.comment text ∉ part.body) :
    Statement.comment text ∉ layOut comments sections := by
  intro h
  obtain ⟨part, hpart, heq⟩ := exists_heading_of_mem_layOut hbody h
  exact hheading part hpart heq

namespace Statement

/-- The fallback does not read like a text that ends in a bracket. -/
lemma fallback_ne_of_bracket (name start : String) : fallback name ≠ .comment (start ++ ")") := by
  intro heq
  have hlast := congrArg (fun text => text.toList.getLast?) (Statement.comment.inj heq)
  have htext : fallbackText.toList.getLast? = some 'd' := by decide
  have hbracket : ")".toList.getLast? = some ')' := by decide
  simp only [String.toList_append, List.getLast?_append, htext, hbracket, Option.some_or] at hlast
  cases hlast

/-- The fallback of an identifier does not read like the title of a construct, which goes on in
another way behind the first word. -/
lemma fallback_ne_of_title (hname : Text.isIdentifier name = true) (construct : String) :
    fallback name ≠ .comment ("Measurement model: " ++ construct) := by
  intro heq
  let p : Char → Bool := fun c => c != ' '
  have hfirst : ∀ c ∈ name.toList, p c = true := by
    intro c hc
    refine bne_iff_ne.mpr ?_
    rintro rfl
    exact not_mem_of_isIdentifier hname (by decide) hc
  have htitle : (("Measurement model: ".toList ++ construct.toList).dropWhile p)[1]? = some 'm' :=
    rfl
  have htext : (fallbackText.toList.dropWhile p)[1]? = some 'h' := by decide
  have hchars := congrArg String.toList (Statement.comment.inj heq)
  have hsecond := congrArg (fun cs => (cs.dropWhile p)[1]?) hchars
  simp only [String.toList_append, List.dropWhile_append_of_pos hfirst, htitle, htext] at hsecond
  cases hsecond

end Statement

namespace Model

variable {m : Model} {names : Names} {nameOf : Symbol → String} {facet : Facet} {name : String}
  {part : Section}

/-! ### Headings -/

/-- The title states the construct. -/
lemma heading_of_mem_titleSections (h : part ∈ m.titleSections) :
    part.heading = "Measurement model: " ++ Text.oneLine m.instrument.construct.name := by
  unfold titleSections at h
  dsimp only at h
  split at h
  · cases h
  · obtain rfl := List.mem_singleton.mp h
    rfl

/-- The heading of a facet ends with a bracket. -/
lemma exists_heading_of_mem_keyedParts (h : part ∈ m.keyedParts nameOf facet) :
    ∃ start, part.heading = start ++ ")" := by
  unfold keyedParts at h
  dsimp only at h
  split at h
  · cases h
  · split at h
    · cases h
    · obtain rfl := List.mem_singleton.mp h
      exact ⟨_, rfl⟩
  · obtain rfl := List.mem_singleton.mp h
    exact ⟨_, rfl⟩

/-- The heading of the higher-order construct ends with a bracket. -/
lemma exists_heading_of_mem_secondOrderParts (h : part ∈ m.secondOrderParts nameOf) :
    ∃ start, part.heading = start ++ ")" := by
  unfold secondOrderParts at h
  dsimp only at h
  split at h
  · cases h
  · split at h
    · cases h
    · obtain rfl := List.mem_singleton.mp h
      exact ⟨_, rfl⟩
    · obtain rfl := List.mem_singleton.mp h
      exact ⟨_, rfl⟩

/-! ### Enough indicators -/

section Valid

variable (hvalid : m.report.isValid = true) (hmulti : m.isUnidimensional = false)

include hvalid hmulti

/-- A facet with a mode is measured by enough indicators. -/
lemma minCandidates_le_facetMeasures (hfacet : facet ∈ m.instrument.facets)
    (hmode : (m.facetMode? facet.id).isSome = true) :
    minCandidates ≤ (m.facetMeasures nameOf facet).length := by
  unfold facetMeasures
  split
  · next hnone =>
    rw [hnone] at hmode
    cases hmode
  · next hreflective =>
    rw [namedItems, List.length_map]
    exact minCandidates_le_activeItems hvalid hmulti hfacet hreflective
  · next hformative =>
    rw [namedKeyedGlobals, List.length_map, keyedGlobals, List.length_append]
    exact (minCandidates_le_presentGlobals hvalid hmulti hfacet hformative).trans
      (Nat.le_add_right _ _)

/-- A facet with a mode has one section, and in it one reflective statement, which lists enough
indicators. -/
lemma exists_keyedParts_eq_of_isValid (nameOf : Symbol → String)
    (hfacet : facet ∈ m.instrument.facets) (hmode : (m.facetMode? facet.id).isSome = true) :
    ∃ heading front listed fixedFirst rest, minCandidates ≤ listed.length ∧
      m.keyedParts nameOf facet =
        [⟨heading, front ++ .reflective (nameOf (.facet facet.id)) listed fixedFirst :: rest⟩] ∧
      ∀ s ∈ front ++ rest, s = .fixVariance (nameOf (.facet facet.id)) ∨
        ∃ causes, s = .formative (nameOf (.facet facet.id)) causes := by
  have henough : minCandidates ≤ (m.facetMeasures nameOf facet).length :=
    minCandidates_le_facetMeasures hvalid hmulti hfacet hmode
  have hne : m.facetMeasures nameOf facet ≠ [] :=
    List.ne_nil_of_length_pos (lt_of_lt_of_le Nat.two_pos henough)
  obtain ⟨heading, front, listed, fixedFirst, rest, hparts, hperm, hothers⟩ :=
    exists_keyedParts_eq hne
  refine ⟨heading, front, listed, fixedFirst, rest, ?_, hparts, hothers⟩
  rwa [hperm.length_eq, List.length_map]

/-- The reflective statements about a facet with a mode, in its section. -/
lemma exists_filter_keyedParts_eq (hfacet : facet ∈ m.instrument.facets)
    (hmode : (m.facetMode? facet.id).isSome = true) :
    ∃ indicators fixedFirst, minCandidates ≤ indicators.length ∧
      ((m.keyedParts nameOf facet).flatMap fun part =>
          part.body.filter (Statement.isReflectiveOf (nameOf (.facet facet.id)))) =
        [.reflective (nameOf (.facet facet.id)) indicators fixedFirst] := by
  obtain ⟨heading, front, listed, fixedFirst, rest, henough, hparts, hothers⟩ :=
    exists_keyedParts_eq_of_isValid hvalid hmulti nameOf hfacet hmode
  have hown : (Statement.reflective (nameOf (.facet facet.id)) listed fixedFirst).isReflectiveOf
      (nameOf (.facet facet.id)) = true := beq_self_eq_true _
  have hnone : ∀ s ∈ front ++ rest,
      ¬ s.isReflectiveOf (nameOf (.facet facet.id)) = true := by
    intro s hs
    rcases hothers s hs with rfl | ⟨causes, rfl⟩ <;> exact Bool.false_ne_true
  rw [List.forall_mem_append] at hnone
  refine ⟨listed, fixedFirst, henough, ?_⟩
  rw [hparts, List.flatMap_singleton, List.filter_append, List.filter_cons_of_pos hown,
    List.filter_eq_nil_iff.mpr hnone.1, List.filter_eq_nil_iff.mpr hnone.2]
  rfl

/-- There is no comment in the section of a facet. -/
lemma comment_not_mem_keyedParts (hfacet : facet ∈ m.instrument.facets)
    (hpart : part ∈ m.keyedParts nameOf facet) (text : String) : .comment text ∉ part.body := by
  cases hmode : m.facetMode? facet.id with
  | none =>
    rw [keyedParts, hmode] at hpart
    cases hpart
  | some mode =>
    obtain ⟨heading, front, listed, fixedFirst, rest, -, hparts, hothers⟩ :=
      exists_keyedParts_eq_of_isValid hvalid hmulti nameOf hfacet (by rw [hmode]; rfl)
    rw [hparts] at hpart
    obtain rfl := List.mem_singleton.mp hpart
    intro hcomment
    have hcomment : Statement.comment text ∈ front ++ rest := by
      rcases List.mem_append.mp hcomment with hcomment | hcomment
      · exact List.mem_append_left _ hcomment
      · rcases List.mem_cons.mp hcomment with hcomment | hcomment
        · cases hcomment
        · exact List.mem_append_right _ hcomment
    rcases hothers _ hcomment with heq | ⟨causes, heq⟩ <;> cases heq

omit hmulti in
/-- There is no comment in the section of the higher-order construct. -/
lemma comment_not_mem_secondOrderParts (hpart : part ∈ m.secondOrderParts nameOf) (text : String) :
    .comment text ∉ part.body := by
  intro hcomment
  unfold secondOrderParts at hpart
  dsimp only at hpart
  split at hpart
  · cases hpart
  · split at hpart
    · cases hpart
    · obtain rfl := List.mem_singleton.mp hpart
      cases (mention_of_mem_measurementBlock hcomment).1
    · next hformative =>
      obtain rfl := List.mem_singleton.mp hpart
      have henough : 0 < (m.namedGlobals nameOf .secondOrder).length := by
        rw [namedGlobals, List.length_map]
        exact lt_of_lt_of_le Nat.two_pos (minCandidates_le_secondOrder hvalid hformative)
      rcases List.mem_append.mp hcomment with hcomment | hcomment
      · cases eq_of_mem_causeBlock hcomment
      · have hempty : ¬ (m.namedGlobals nameOf .secondOrder).isEmpty = true := by
          simpa [List.isEmpty_iff] using List.ne_nil_of_length_pos henough
        rw [anchorBlock, if_neg hempty] at hcomment
        cases (mention_of_mem_measurementBlock hcomment).1

end Valid

/-! ### Statements of a valid model -/

section Statements

variable (hnames : m.names = .ok names) {comments : Bool} {statements : List Statement}
  (hstatements : m.statements names comments = .ok statements)

include hnames hstatements

/-- In a valid model with facets of different ids, a facet with a mode has one reflective statement,
which lists enough indicators. -/
lemma exists_filter_isReflectiveOf_eq (hvalid : m.report.isValid = true)
    (hmulti : m.isUnidimensional = false) (hnodup : (m.instrument.facets.map Facet.id).Nodup)
    (hnamed : m.IsNamed names nameOf) (hfacet : facet ∈ m.instrument.facets)
    (hmode : (m.facetMode? facet.id).isSome = true) :
    ∃ indicators fixedFirst, minCandidates ≤ indicators.length ∧
      statements.filter (Statement.isReflectiveOf (nameOf (.facet facet.id))) =
        [.reflective (nameOf (.facet facet.id)) indicators fixedFirst] := by
  let own : Statement → Bool := Statement.isReflectiveOf (nameOf (.facet facet.id))
  have hsymbol : ∀ symbol, m.HasSymbol symbol → nameOf (.facet facet.id) = nameOf symbol →
      .facet facet.id = symbol := by
    intro symbol h heq
    have hname := hnamed.2 _ (HasSymbol.facet hfacet)
    rw [heq] at hname
    exact (isConsistent_of_names_eq_ok hnames).injective _ _ _ hname (hnamed.2 symbol h)
  -- The facet shares its name with no other symbol: other sections have no such statement.
  have hothers : ∀ other ∈ m.instrument.facets, other ≠ facet →
      ((m.keyedParts nameOf other).flatMap fun part => part.body.filter own) = [] := by
    intro other hother hne
    refine List.flatMap_eq_nil_iff.mpr fun part hpart => ?_
    refine List.filter_eq_nil_iff.mpr fun s hs hreflective => ?_
    have hname :=
      (mention_of_mem_keyedParts hpart hs (Statement.subject?_of_isReflectiveOf hreflective)).1
    have hid := Symbol.facet.inj (hsymbol _ (.facet hother) hname)
    exact hne (List.inj_on_of_nodup_map hnodup hother hfacet hid.symm)
  have hsecond : ((m.secondOrderParts nameOf).flatMap fun part => part.body.filter own) = [] := by
    refine List.flatMap_eq_nil_iff.mpr fun part hpart => ?_
    refine List.filter_eq_nil_iff.mpr fun s hs hreflective => ?_
    have hname := (mention_of_mem_secondOrderParts hpart hs
      (Statement.subject?_of_isReflectiveOf hreflective)).1
    cases hsymbol _ .overall hname
  obtain ⟨indicators, fixedFirst, henough, hblock⟩ :=
    exists_filter_keyedParts_eq hvalid hmulti hfacet hmode
  refine ⟨indicators, fixedFirst, henough, ?_⟩
  rw [filter_statements_of_facetSections hnamed hmulti (facetSections_eq_ok_keyed hnamed hnodup)
      hstatements fun _ => Statement.isMeaningful_of_isReflectiveOf, hsecond, List.flatMap_assoc,
    flatMap_eq_of_forall_ne (.of_map _ hnodup) hfacet hothers, List.append_nil, hblock]

/-- A valid unidimensional model states below its title that the construct shows in enough
indicators, and at most that its variance is fixed. -/
lemma exists_statements_eq_of_unidim (hvalid : m.report.isValid = true)
    (hsingle : m.isUnidimensional = true) :
    ∃ listed fixedFirst rest, minCandidates ≤ listed.length ∧
      statements = Section.layOut comments m.titleSections ++
        .reflective names.overall listed fixedFirst :: rest ∧
      ∀ s ∈ rest, s = .fixVariance names.overall := by
  obtain ⟨nameOf, hnamed⟩ : ∃ nameOf, m.IsNamed names nameOf := ⟨_, isNamed_of_names_eq_ok hnames⟩
  have henough : minCandidates ≤ (m.namedItems nameOf .unidim).length := by
    rw [namedItems, List.length_map]
    exact minCandidates_le_unidim hvalid hsingle
  have hne : m.namedItems nameOf .unidim ≠ [] :=
    List.ne_nil_of_length_pos (lt_of_lt_of_le Nat.two_pos henough)
  obtain ⟨listed, fixedFirst, rest, hblock, hperm, hrest⟩ :=
    exists_measurementBlock_eq hne names.overall (m.effectiveRule .unidim)
  rw [statements_eq_ok_of_isUnidimensional hnamed hsingle, hblock] at hstatements
  refine ⟨listed, fixedFirst, rest, ?_, (Except.ok.inj hstatements).symm, hrest⟩
  rwa [hperm.length_eq, List.length_map]

/-- A valid unidimensional model has one reflective statement, which is about the construct and
lists enough indicators. -/
lemma exists_filter_isReflective_eq (hvalid : m.report.isValid = true)
    (hsingle : m.isUnidimensional = true) :
    ∃ indicators fixedFirst, minCandidates ≤ indicators.length ∧
      statements.filter Statement.isReflective =
        [.reflective names.overall indicators fixedFirst] := by
  obtain ⟨listed, fixedFirst, rest, henough, rfl, hrest⟩ :=
    exists_statements_eq_of_unidim hnames hstatements hvalid hsingle
  have hnone : ∀ s ∈ rest, ¬ s.isReflective = true := by
    intro s hs
    obtain rfl := hrest s hs
    exact Bool.false_ne_true
  refine ⟨listed, fixedFirst, henough, ?_⟩
  rw [List.filter_append,
    m.filter_layOut_titleSections comments fun _ => Statement.isMeaningful_of_isReflective,
    List.filter_cons_of_pos rfl, List.filter_eq_nil_iff.mpr hnone, List.nil_append]

/-- The fallback is never needed in a valid model. -/
lemma fallback_not_mem (hvalid : m.report.isValid = true)
    (hnodup : (m.instrument.facets.map Facet.id).Nodup)
    (hname : Text.isIdentifier name = true) : Statement.fallback name ∉ statements := by
  have htitle : ∀ part ∈ m.titleSections, ∀ text, Statement.comment text ∉ part.body := by
    intro part hpart text
    rw [body_eq_nil_of_mem_titleSections hpart]
    exact List.not_mem_nil
  have hhead : ∀ part ∈ m.titleSections, part.heading ≠ name ++ Statement.fallbackText := by
    intro part hpart heq
    rw [heading_of_mem_titleSections hpart] at heq
    exact Statement.fallback_ne_of_title hname _ (congrArg Statement.comment heq.symm)
  cases hdimension : m.isUnidimensional with
  | true =>
    obtain ⟨listed, fixedFirst, rest, -, rfl, hrest⟩ :=
      exists_statements_eq_of_unidim hnames hstatements hvalid hdimension
    rw [List.mem_append, List.mem_cons]
    rintro (hfallback | hfallback | hfallback)
    · exact Section.comment_not_mem_layOut hhead htitle hfallback
    · cases hfallback
    · cases hrest _ hfallback
  | false =>
    obtain ⟨nameOf, hnamed⟩ : ∃ nameOf, m.IsNamed names nameOf :=
      ⟨_, isNamed_of_names_eq_ok hnames⟩
    rw [statements_eq_ok_of_facetSections hnamed hdimension
      (facetSections_eq_ok_keyed hnamed hnodup)] at hstatements
    obtain rfl := Except.ok.inj hstatements
    -- Headings end in a bracket, which no fallback does.
    have hbracket : ∀ part : Section, (∃ start, part.heading = start ++ ")") →
        part.heading ≠ name ++ Statement.fallbackText := by
      rintro part ⟨start, hstart⟩ heq
      rw [hstart] at heq
      exact Statement.fallback_ne_of_bracket name start (congrArg Statement.comment heq.symm)
    refine Section.comment_not_mem_layOut ?_ ?_
    · rw [List.forall_mem_append, List.forall_mem_append, List.forall_mem_flatMap]
      exact ⟨⟨hhead, fun facet _ part hpart =>
          hbracket part (exists_heading_of_mem_keyedParts hpart)⟩,
        fun part hpart => hbracket part (exists_heading_of_mem_secondOrderParts hpart)⟩
    · rw [List.forall_mem_append, List.forall_mem_append, List.forall_mem_flatMap]
      exact ⟨⟨htitle, fun facet hfacet part hpart =>
          comment_not_mem_keyedParts hvalid hdimension hfacet hpart⟩,
        fun part hpart => comment_not_mem_secondOrderParts hvalid hpart⟩

end Statements

/-- Every latent variable below the higher-order construct of a valid model is measured.  The single
one of a unidimensional model is the subject of the only reflective statement there is; otherwise
each facet with a mode is the subject of exactly one.  These statements list two indicators at
least, and no variance is fixed for want of global items. -/
theorem measured_of_isValid (hnodup : (m.instrument.facets.map Facet.id).Nodup)
    (hnames : m.names = .ok names) (hvalid : m.report.isValid = true) (comments : Bool) :
    ∃ statements, m.statements names comments = .ok statements ∧
      (m.isUnidimensional = true → ∃ indicators fixedFirst, 2 ≤ indicators.length ∧
        statements.filter Statement.isReflective =
          [.reflective names.overall indicators fixedFirst]) ∧
      (m.isUnidimensional = false → ∀ facet ∈ m.instrument.facets,
        (m.facetMode? facet.id).isSome = true →
          ∃ name, names.find? (.facet facet.id) = some name ∧
            ∃ indicators fixedFirst, 2 ≤ indicators.length ∧
              statements.filter (Statement.isReflectiveOf name) =
                [.reflective name indicators fixedFirst]) ∧
      ∀ latent name, names.latent? latent = some name → Statement.fallback name ∉ statements := by
  have hnamed := isNamed_of_names_eq_ok hnames
  obtain ⟨statements, hstatements⟩ := exists_statements_eq_ok hnames comments
  refine ⟨statements, hstatements, ?_, ?_, ?_⟩
  · exact exists_filter_isReflective_eq hnames hstatements hvalid
  · intro hmulti facet hfacet hmode
    exact ⟨_, hnamed.2 _ (.facet hfacet),
      exists_filter_isReflectiveOf_eq hnames hstatements hvalid hmulti hnodup hnamed hfacet hmode⟩
  · intro latent name hname
    rw [latent?_eq_find? hnames] at hname
    exact fallback_not_mem hnames hstatements hvalid hnodup
      ((isConsistent_of_names_eq_ok hnames).isIdentifier _ _ hname)

/-- A reflective facet with two items, a formative one with two global items, a facet without a
mode, and a formative higher-order construct with two global items, each with a rule. -/
def complete : Model where
  instrument :=
    { facets := [{ id := "a" }, { id := "b" }, { id := "c" }]
      items := [{ id := 1, facetId := some "a" }, { id := 2, facetId := some "a" },
        { id := 3, facetId := some "b" }] }
  configuration :=
    { modes := ((∅ : Table Mode).insert "a" .reflective).insert "b" .formative
      scaling := ((∅ : Table ScalingRule).insert "a" (.fixingLoadingOf "1")).insert "b" .fixVariance
      globals := (∅ : Table (List GlobalItem)).insert "b"
        [⟨"p", "Overall"⟩, ⟨"q", "In general"⟩]
      secondOrder :=
        { mode := some .formative, scaling := some (.fixingLoadingOf "r"),
          globals := some [⟨"r", "All in all"⟩, ⟨"s", "On the whole"⟩] } }

lemma length_nameRequests_complete : complete.nameRequests.length = 10 := by
  simp [nameRequests, Instrument.sortedItems, Instrument.sortById, complete, globalOwners, globals,
    globals?]

/-- The latent variables of that model are measured. -/
theorem measured_complete :
    ∃ names, complete.names = .ok names ∧ complete.report.isValid = true ∧ ∀ comments,
      ∃ statements, complete.statements names comments = .ok statements ∧
        (complete.isUnidimensional = true → ∃ indicators fixedFirst, 2 ≤ indicators.length ∧
          statements.filter Statement.isReflective =
            [.reflective names.overall indicators fixedFirst]) ∧
        (complete.isUnidimensional = false → ∀ facet ∈ complete.instrument.facets,
          (complete.facetMode? facet.id).isSome = true →
            ∃ name, names.find? (.facet facet.id) = some name ∧
              ∃ indicators fixedFirst, 2 ≤ indicators.length ∧
                statements.filter (Statement.isReflectiveOf name) =
                  [.reflective name indicators fixedFirst]) ∧
        ∀ latent name, names.latent? latent = some name →
          Statement.fallback name ∉ statements := by
  have hvalid : complete.report.isValid = true := by cbv
  obtain ⟨names, hnames⟩ := exists_names_eq_ok_of_length length_nameRequests_complete (by decide)
  exact ⟨names, hnames, hvalid, measured_of_isValid (by decide) hnames hvalid⟩

end Model

end Psychometrics
