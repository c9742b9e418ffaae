import Mathlib
import Psychometrics.Proofs.Naming.Exhaustion

/-!
# Names of a model that grows

A facet that is appended to a model is named after everything else: its request comes behind those
of the items, of the global items and of the facets before it.  So the names that there were stay
what they are, and the new facet gets the first form of its name that is still free beside them,
whatever texts the users have typed (`Model.names_of_withFacets_singleton`).  A model whose names
run out does not get any by growing.
-/

namespace Psychometrics

namespace Model

variable {m : Model} {facets : List Facet} {names : Names}

/-- A model with further facets behind its own. -/
def withFacets (m : Model) (facets : List Facet) : Model :=
  { m with instrument.facets := m.instrument.facets ++ facets }

/-! ### Requests behind all others -/

/-- Facets without global items leave the requests of the global items as they are. -/
lemma globalRequests_withFacets (h : ∀ f ∈ facets, m.globals (.facet f.id) = []) :
    (m.withFacets facets).globalRequests = m.globalRequests := by
  have howners : (m.withFacets facets).globalOwners =
      (m.instrument.facets.map fun f => Latent.facet f.id) ++
        (facets.map fun f => Latent.facet f.id) ++ [.secondOrder] := by
    rw [globalOwners, withFacets, List.map_append]
  have hglobals : ∀ latent, (m.withFacets facets).globals latent = m.globals latent := fun _ => rfl
  have hnone : ((facets.map fun f => Latent.facet f.id).flatMap fun latent =>
      (m.globals latent).map fun item =>
        (Symbol.global latent.key item.id, globalName item.id)) = [] := by
    rw [List.flatMap_eq_nil_iff, List.forall_mem_map]
    intro f hf
    rw [h f hf, List.map_nil]
  unfold globalRequests
  simp only [howners, hglobals, List.flatMap_append, hnone, List.append_nil]
  rw [globalOwners, List.flatMap_append]

/-- Facets without global items request their names behind all others. -/
lemma nameRequests_withFacets (h : ∀ f ∈ facets, m.globals (.facet f.id) = []) :
    (m.withFacets facets).nameRequests =
      m.nameRequests ++ facets.map fun f => (.facet f.id, facetName f) := by
  have hitems : (m.withFacets facets).itemRequests = m.itemRequests := rfl
  have hfacets : (m.withFacets facets).facetRequests =
      m.facetRequests ++ facets.map fun f => (.facet f.id, facetName f) := by
    rw [facetRequests, withFacets, List.map_append, facetRequests]
  rw [nameRequests_eq, nameRequests_eq, hitems, globalRequests_withFacets h, hfacets]
  simp only [List.append_assoc]

/-- The names of a model that has grown: those from before, and then those of the new facets. -/
lemma names_withFacets (h : ∀ f ∈ facets, m.globals (.facet f.id) = []) :
    (m.withFacets facets).names =
      m.names >>= (facets.map fun f => (Symbol.facet f.id, facetName f)).foldlM Names.add := by
  have hoverall : (m.withFacets facets).overallName = m.overallName := rfl
  rw [Model.names, nameRequests_withFacets h, List.foldlM_append, hoverall]
  rfl

/-! ### Names from before -/

/-- Where names have run out, further facets change nothing. -/
lemma names_withFacets_eq_error (h : ∀ f ∈ facets, m.globals (.facet f.id) = [])
    {e : CompileError} (herror : m.names = .error e) : (m.withFacets facets).names = .error e := by
  rw [names_withFacets h, herror]
  rfl

/-- A facet without an entry for global items has none. -/
lemma globals_eq_nil_of_getElem?_eq_none {id : String}
    (h : m.configuration.globals[id]? = none) : m.globals (.facet id) = [] := by
  rw [globals, globals?, h, Option.getD_none]

/-- Under an id that no facet of a model bears, no facet is named. -/
lemma find?_facet_eq_none (hnames : m.names = .ok names) {id : String}
    (hnew : ∀ g ∈ m.instrument.facets, g.id ≠ id) : names.find? (.facet id) = none := by
  rw [← Option.not_isSome_iff_eq_none, isSome_find?_iff hnames]
  intro h
  generalize hs : Symbol.facet id = s at h
  cases h with
  | facet hfacet => exact hnew _ hfacet (Symbol.facet.inj hs).symm
  | _ => cases hs

/-- A new facet without global items, appended to a model, renames nothing: all names from before
remain, and it gets the first form of its name that is still free beside them.  If the model had no
names, it has none with the facet either, for the same reason. -/
theorem names_of_withFacets_singleton {f : Facet} (hnew : ∀ g ∈ m.instrument.facets, g.id ≠ f.id)
    (hglobals : m.configuration.globals[f.id]? = none) :
    (∀ names', (m.withFacets [f]).names = .ok names' →
      ∃ names, m.names = .ok names ∧ names'.overall = names.overall ∧
        (∀ symbol, symbol ≠ .facet f.id → names'.find? symbol = names.find? symbol) ∧
        names'.find? (.facet f.id) =
          Names.freeForm? names.taken (.facet f.id) (facetName f)) ∧
      ∀ e, m.names = .error e → (m.withFacets [f]).names = .error e := by
  have hnone : ∀ g ∈ [f], m.globals (.facet g.id) = [] := by
    intro g hg
    rw [List.mem_singleton.mp hg]
    exact globals_eq_nil_of_getElem?_eq_none hglobals
  refine ⟨fun names' h => ?_, fun e => names_withFacets_eq_error hnone⟩
  rw [names_withFacets hnone] at h
  obtain ⟨names, hnames, h⟩ := bind_eq_ok_iff.mp h
  rw [List.map_singleton, List.foldlM_cons] at h
  obtain ⟨last, hadd, h⟩ := bind_eq_ok_iff.mp h
  obtain rfl := Except.ok.inj h
  refine ⟨names, hnames, ?_⟩
  obtain ⟨hold, -⟩ | ⟨name, hform, -, rfl⟩ := Names.add_eq_ok hadd
  · rw [find?_facet_eq_none hnames hnew] at hold
    cases hold
  · refine ⟨rfl, fun symbol hne => ?_, ?_⟩
    · rw [Names.find?_give, if_neg hne.symm]
    · rw [Names.find?_give, if_pos rfl, hform]

/-- A further facet called like two others. -/
def thirdVigor : Facet where
  id := "e"
  name := "Vigor"

/-- Though its name is taken more than once, the further facet leaves all others theirs. -/
theorem names_of_crowded_withFacets :
    ∃ names', (crowded.withFacets [thirdVigor]).names = .ok names' ∧
      ∃ names, crowded.names = .ok names ∧ names'.overall = names.overall ∧
        (∀ symbol, symbol ≠ .facet "e" → names'.find? symbol = names.find? symbol) ∧
        names'.find? (.facet "e") =
          Names.freeForm? names.taken (.facet "e") (facetName thirdVigor) := by
  have hglobals : crowded.configuration.globals[thirdVigor.id]? = none := by decide
  have hnew : ∀ g ∈ crowded.instrument.facets, g.id ≠ thirdVigor.id := by decide
  have hlength : (crowded.withFacets [thirdVigor]).nameRequests.length = 8 := by
    have hnone : ∀ f ∈ [thirdVigor], crowded.globals (.facet f.id) = [] := by decide
    rw [nameRequests_withFacets hnone, List.length_append, length_nameRequests_crowded]
    rfl
  obtain ⟨names', hnames'⟩ := exists_names_eq_ok_of_length hlength (by decide)
  exact ⟨names', hnames', (names_of_withFacets_singleton hnew hglobals).1 names' hnames'⟩

end Model

end Psychometrics
