import Psychometrics.Report.Basic
import Psychometrics.Text.Quoted

/-!
# The report on a model

The checks of a facet, of the single latent variable of a unidimensional model, and of the
higher-order construct.  The first two share the checks on a stored rule and on a number of items,
and differ in their wording.
-/

namespace Psychometrics

/-! ### Findings -/

namespace Diagnostic

/-- An error about a latent variable. -/
def error (check : Check) (latent : Latent) (message : String) : Diagnostic :=
  .ofCode check.code .error (some latent) message

/-- A warning about a latent variable. -/
def warning (check : Check) (latent : Latent) (message : String) : Diagnostic :=
  .ofCode check.code .warning (some latent) message

end Diagnostic

namespace Model

/-! ### Facets and the single latent variable -/

/-- Whether a latent variable has a rule, and whether that rule says which loading it fixes;
`subject` is how the latent variable is called. -/
def scalingFindings (m : Model) (latent : Latent) (subject : String) : List Diagnostic :=
  match m.scalingRule? latent with
  | none => [.error .scalingMissing latent (subject ++ " has no scaling rule selected.")]
  | some rule =>
    if rule.lacksReference then
      [.error .referenceMissing latent
        (subject ++ " set to fix a loading but no reference item chosen.")]
    else []

/-- Whether a reflective latent variable has enough active items, and more than just enough. -/
def itemFindings (m : Model) (latent : Latent) (subject : String) : List Diagnostic :=
  let n := (m.activeItems latent).length
  if n < minCandidates then
    [.error .tooFewItems latent
      (subject ++ " must have at least 2 items (has " ++ Text.ofNat n ++ ").")]
  else if n = minCandidates then
    [.warning .marginalItems latent (subject ++ " has only 2 items.")]
  else []

/-- The findings about a facet; a facet without a mode has none. -/
def facetFindings (m : Model) (facet : Facet) : List Diagnostic :=
  let latent := Latent.facet facet.id
  let quoted := Text.quoted facet.label
  match m.facetMode? facet.id with
  | none => []
  | some .reflective =>
    m.scalingFindings latent ("Facet " ++ quoted) ++
      m.itemFindings latent ("Reflective facet " ++ quoted)
  | some .formative =>
    let n := (m.presentGlobals latent).length
    m.scalingFindings latent ("Facet " ++ quoted) ++
      (if n < minCandidates then
        [.error .tooFewGlobals latent
          ("Formative facet " ++ quoted ++ " requires two global reflective items (has " ++
            Text.ofNat n ++ ").")]
      else [])

/-- The findings about the latent variables below the higher-order construct. -/
def firstOrderFindings (m : Model) : List Diagnostic :=
  if m.isUnidimensional then
    m.scalingFindings .unidim "Unidimensional construct" ++
      m.itemFindings .unidim "Unidimensional construct"
  else m.instrument.facets.flatMap m.facetFindings

/-! ### The higher-order construct -/

/-- What is wrong with a higher-order rule that does not say which loading it fixes. -/
def secondOrderReferenceMessage : Mode → String
  | .reflective =>
    "Higher-order reflective latent requires a reference facet for fixed loading scaling."
  | .formative =>
    "Higher-order formative latent requires a reference global item when fixing a loading."

/-- Whether the higher-order construct has a rule that is complete. -/
def secondOrderScalingFindings (m : Model) (mode : Mode) : List Diagnostic :=
  match m.scalingRule? .secondOrder with
  | none =>
    [.error .secondOrderScalingMissing .secondOrder
      "Higher-order latent has no scaling configuration."]
  | some rule =>
    if rule.lacksReference then
      [.error .secondOrderReferenceMissing .secondOrder (secondOrderReferenceMessage mode)]
    else []

/-- Whether a formative higher-order construct has enough global items. -/
def secondOrderGlobalFindings (m : Model) : Mode → List Diagnostic
  | .reflective => []
  | .formative =>
    let n := (m.presentGlobals .secondOrder).length
    if n < minCandidates then
      [.error .secondOrderTooFewGlobals .secondOrder
        ("Higher-order formative latent requires two global reflective items (has " ++
          Text.ofNat n ++ ").")]
    else []

/-- The findings about the higher-order construct, if there is one.  That it has no facets to stand
on is the last of them. -/
def secondOrderFindings (m : Model) : List Diagnostic :=
  match m.configuration.secondOrder.mode with
  | none => []
  | some mode =>
    m.secondOrderScalingFindings mode ++ m.secondOrderGlobalFindings mode ++
      (if m.isUnidimensional then
        [.error .secondOrderWithoutFacets .secondOrder
          "Higher-order latent specified but there are no first-order facets."]
      else [])

/-! ### The report -/

/-- Everything that is found about a model. -/
def findings (m : Model) : List Diagnostic :=
  m.firstOrderFindings ++ m.secondOrderFindings

/-- The report on a model. -/
def report (m : Model) : Report :=
  .ofFindings m.findings

end Model

end Psychometrics
