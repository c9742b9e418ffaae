/-!
# Latent variables

A measurement model estimates latent variables: one for each facet, one for the higher-order
construct above the facets, or a single one for an instrument with one dimension.  A configuration
refers to them by a key, which is the id of the facet or one of two reserved words.
-/

namespace Psychometrics

/-- A latent variable that can carry a scaling rule. -/
inductive Latent
  | unidim
  | facet (id : String)
  | secondOrder
  deriving DecidableEq

namespace Latent

/-- The key of the single latent variable of an instrument with one dimension. -/
def unidimKey : String :=
  "unidim"

/-- The key of the higher-order construct. -/
def secondOrderKey : String :=
  "secondOrder"

/-- The key under which a configuration refers to a latent variable. -/
def key : Latent → String
  | .unidim => unidimKey
  | .facet id => id
  | .secondOrder => secondOrderKey

/-- The latent variable that a key refers to: every key but the two reserved words names a facet. -/
def ofKey (key : String) : Latent :=
  if key = unidimKey then .unidim
  else if key = secondOrderKey then .secondOrder
  else .facet key

/-- Every key is that of the latent variable it stands for. -/
@[simp] theorem key_ofKey (key : String) : (ofKey key).key = key := by
  unfold ofKey
  split
  · next h => exact h.symm
  · split
    · next h => exact h.symm
    · rfl

end Latent

end Psychometrics
