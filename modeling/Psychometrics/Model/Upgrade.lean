import Psychometrics.Model.Scaling

/-!
# Loading a model

A stored configuration may stem from an older version, or from before the instrument was changed.
Loading brings it into a consistent state: every formative latent variable gets its slots for global
items, relations that are missing are rebuilt, and every latent variable that needs a scaling rule
gets its effective one.  Nothing else is changed.
-/

namespace Psychometrics.Model

/-- The formative facets, as latent variables. -/
def formativeFacets (m : Model) : List Latent :=
  let formative := m.instrument.facets.filter fun facet => m.facetMode? facet.id == some .formative
  formative.map fun facet => .facet facet.id

/-- Creates the missing slots of all formative latent variables. -/
def withAllSlots (m : Model) : Model :=
  let m := m.formativeFacets.foldl withSlots m
  if m.configuration.secondOrder.mode = some .formative then m.withSlots .secondOrder else m

/-- Rebuilds the relations when there are none although some facet has a mode. -/
def withIndicators (m : Model) : Model :=
  if m.configuration.indicators.isEmpty && !m.configuration.modes.isEmpty then
    { m with configuration.indicators := m.indicators }
  else m

/-- Brings a model into a consistent state. -/
def upgrade (m : Model) : Model :=
  m.withAllSlots.withIndicators.resolveAll

/-- Combines an instrument with the stored configuration, if there is one, and says whether the
result differs from what was stored. -/
def load (instrument : Instrument) (stored : Option Configuration) : Model × Bool :=
  let m : Model := ⟨instrument, stored.getD {}⟩
  (m.upgrade, m.upgrade.configuration != m.configuration)

end Psychometrics.Model
