import Psychometrics.Model.Relation

/-!
# Scaling

How a latent variable gets its scale.  A loading can be fixed only where at least two candidates for
the reference are left; below that the variance is fixed instead.  A stored rule is checked against
the present candidates before it is used, and the effective rule of a latent variable is the result
of that check, or a default when nothing is stored.

Resolving one latent variable never touches the rule of another.
-/

namespace Psychometrics

/-- How many candidates it takes to fix a loading. -/
def minCandidates : Nat :=
  2

namespace ScalingRule

/-! ### Rules over a list of candidates -/

/-- The first of the candidates with the shortest text. -/
def shortest? : List Candidate → Option Candidate
  | [] => none
  | c :: cs =>
    match shortest? cs with
    | none => some c
    | some d => if c.text.length ≤ d.text.length then some c else some d

/-- The default rule: fix the loading of the candidate with the shortest text, the first one on a
tie, or the variance when there are too few candidates. -/
def ofCandidates (candidates : List Candidate) : ScalingRule :=
  if candidates.length < minCandidates then .fixVariance
  else
    match shortest? candidates with
    | some c => fixingLoadingOf c.id
    | none => .fixVariance

/-- An id is that of a candidate. -/
def isCandidate (candidates : List Candidate) (id : String) : Bool :=
  candidates.any fun c => c.id == id

/-- A rule in the light of the present candidates: a fixed loading stays when its reference is one
of them, falls to the first one when it is not, and gives way to a fixed variance when there are too
few. -/
def revalidate (rule : ScalingRule) (candidates : List Candidate) : ScalingRule :=
  match rule with
  | .fixVariance => .fixVariance
  | .fixLoading r =>
    if candidates.length < minCandidates then .fixVariance
    else if ((ScalingRule.fixLoading r).reference.any fun id => isCandidate candidates id) then
      .fixLoading r
    else
      match candidates.head? with
      | some c => fixingLoadingOf c.id
      | none => .fixVariance

end ScalingRule

namespace Model

/-! ### Rules of a model -/

/-- The facet that a reflective higher-order construct takes as its reference: the first compiled
facet that is reflective, or the first one at all. -/
def preferredFacet? (m : Model) : Option Facet :=
  (m.emittedFacets.find? fun facet => m.facetMode? facet.id == some .reflective).or
    m.emittedFacets.head?

/-- The rule of a latent variable for which none is stored. -/
def defaultRule (m : Model) (latent : Latent) : ScalingRule :=
  if latent = .secondOrder ∧ m.mode? latent = some .reflective then
    if (m.candidates latent).length < minCandidates then .fixVariance
    else
      match m.preferredFacet? with
      | some facet => .fixingLoadingOf facet.id
      | none => .fixVariance
  else .ofCandidates (m.candidates latent)

/-- The rule that is compiled for a latent variable: the stored one in the light of the present
candidates, or the default. -/
def effectiveRule (m : Model) (latent : Latent) : ScalingRule :=
  match m.scalingRule? latent with
  | some rule => rule.revalidate (m.candidates latent)
  | none => m.defaultRule latent

/-- Stores the effective rule of a latent variable. -/
def resolveScaling (m : Model) (latent : Latent) : Model :=
  m.setScalingRule latent (m.effectiveRule latent)

/-- Checks the stored rule of a latent variable, if there is one, against the present candidates. -/
def revalidateScaling (m : Model) (latent : Latent) : Model :=
  match m.scalingRule? latent with
  | some rule => m.setScalingRule latent (rule.revalidate (m.candidates latent))
  | none => m

/-- The latent variables that need a rule: the single one of a unidimensional model, else the facets
with a mode, in declaration order, and the higher-order construct if there is one. -/
def scaledLatents (m : Model) : List Latent :=
  if m.isUnidimensional then [.unidim]
  else
    ((m.instrument.facets.filter fun facet => (m.facetMode? facet.id).isSome).map fun facet =>
      Latent.facet facet.id) ++
    (if m.configuration.secondOrder.mode.isSome then [.secondOrder] else [])

/-- Stores the effective rules of all latent variables that need one. -/
def resolveAll (m : Model) : Model :=
  m.scaledLatents.foldl resolveScaling m

end Model

end Psychometrics
