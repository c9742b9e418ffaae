import Psychometrics.Model.Upgrade
import Psychometrics.Session.Store
import Psychometrics.Text.Quoted

/-!
# Edits

The edits that a user makes to a configuration.  An edit is refused when it does not fit the model;
otherwise it changes the configuration and brings the affected scaling rules up to date.

An edit is an operation on the model that ends in success or failure and in a model either way, so
that what a refused edit leaves behind can be stated and need not be assumed.
-/

namespace Psychometrics

/-! ### Failures -/

/-- Why an operation of a session failed. -/
inductive EditError
  | unknownFacet (id : String)
  | unknownItem (id : Int64)
  | ineligibleReference (latent : Latent) (reference : String)
  | tooFewCandidates (latent : Latent) (available : Nat)
  | noSuchSlot (latent : Latent) (index : Nat)
  | inactiveLatent (latent : Latent)
  | store (cause : StoreError)
  deriving DecidableEq

/-- The wording of a failure. -/
def EditError.message : EditError → String
  | .unknownFacet id => "unknown facet " ++ Text.quoted id
  | .unknownItem id => "unknown item " ++ Text.ofInt id.toInt
  | .ineligibleReference latent reference =>
    Text.quoted reference ++ " is not an eligible reference indicator for latent " ++
      Text.quoted latent.key
  | .tooFewCandidates latent available =>
    "latent " ++ Text.quoted latent.key ++
      " needs at least two eligible indicators to fix a loading (has " ++
      Text.ofNat available ++ ")"
  | .noSuchSlot latent index =>
    "global reflective slot " ++ Text.ofNat index ++ " does not exist for latent " ++
      Text.quoted latent.key
  | .inactiveLatent latent =>
    "latent " ++ Text.quoted latent.key ++ " is not part of the current model"
  | .store cause => cause.message

/-- An operation on a model that may fail. -/
abbrev Editing :=
  EStateM EditError Model

namespace Model

/-! ### Active latent variables -/

/-- A latent variable exists: a facet has to be one of the instrument. -/
def isKnown (m : Model) : Latent → Bool
  | .facet id => (m.instrument.facet? id).isSome
  | _ => true

/-- A latent variable takes part in the model: the single one exactly when the model is
unidimensional, and otherwise a facet with a mode, or the higher-order construct if there is one. -/
def takesPart (m : Model) : Latent → Bool
  | .unidim => m.isUnidimensional
  | latent => !m.isUnidimensional && (m.mode? latent).isSome

/-- Checks that a latent variable exists and takes part in the model. -/
def checkActive (m : Model) (latent : Latent) : Except EditError Unit :=
  if !m.isKnown latent then .error (.unknownFacet latent.key)
  else if m.takesPart latent then .ok ()
  else .error (.inactiveLatent latent)

/-- Brings the rule of the higher-order construct up to date, whose candidates follow the facets. -/
def refreshSecondOrder (m : Model) : Model :=
  if m.configuration.secondOrder.mode.isSome then m.resolveScaling .secondOrder else m

/-! ### Facets -/

/-- Chooses the mode of a facet.  A formative facet gets slots for its global items. -/
def chooseMode (facetId : String) (mode : Mode) : Editing Unit := fun m =>
  if (m.instrument.facet? facetId).isNone then .error (.unknownFacet facetId) m
  else
    let m := m.setFacetMode facetId (some mode)
    let m := if mode = .formative then m.withSlots (.facet facetId) else m
    .ok () (m.resolveScaling (.facet facetId)).refreshSecondOrder

/-! ### Scaling -/

/-- The rule by which a latent variable gets a fixed loading: its stored rule if the reference is
still a candidate, else the default. -/
def loadingRule (m : Model) (latent : Latent) : ScalingRule :=
  match m.scalingRule? latent with
  | some rule =>
    if rule.reference.any fun id => ScalingRule.isCandidate (m.candidates latent) id then rule
    else m.defaultRule latent
  | none => m.defaultRule latent

/-- Chooses how a latent variable is scaled, and yields the resulting rule. -/
def chooseMethod (latent : Latent) (method : ScalingMethod) : Editing ScalingRule := fun m =>
  match m.checkActive latent with
  | .error e => .error e m
  | .ok () =>
    match method with
    | .fixVariance => .ok .fixVariance (m.setScalingRule latent .fixVariance)
    | .fixLoading =>
      if (m.candidates latent).length < minCandidates then
        .error (.tooFewCandidates latent (m.candidates latent).length) m
      else .ok (m.loadingRule latent) (m.setScalingRule latent (m.loadingRule latent))

/-- Chooses the reference indicator of a latent variable. -/
def chooseReference (latent : Latent) (reference : String) : Editing Unit := fun m =>
  match m.checkActive latent with
  | .error e => .error e m
  | .ok () =>
    if ScalingRule.isCandidate (m.candidates latent) reference then
      .ok () (m.setScalingRule latent (.fixingLoadingOf reference))
    else .error (.ineligibleReference latent reference) m

/-! ### Items -/

/-- The latent variable that an item is excluded from: the single one, or that of its facet. -/
def itemLatent? (m : Model) (itemId : Int64) : Option Latent :=
  match m.instrument.item? itemId with
  | none => none
  | some item =>
    if m.isUnidimensional then some .unidim
    else
      match item.facetId with
      | none => none
      | some facetId =>
        if (m.instrument.facet? facetId).isSome then some (.facet facetId) else none

/-- Excludes an item from its latent variable, or takes it back. -/
def chooseExclusion (itemId : Int64) (excluded : Bool) : Editing Unit := fun m =>
  match m.itemLatent? itemId with
  | none => .error (.unknownItem itemId) m
  | some latent =>
    let m := if excluded then m.exclude latent.key itemId else m.restore latent.key itemId
    let m := if (m.mode? latent).isSome then m.resolveScaling latent else m
    .ok () m.refreshSecondOrder

/-! ### Global items -/

/-- Writes the text of a global item of a formative latent variable. -/
def writeGlobal (latent : Latent) (index : Nat) (text : String) : Editing Unit := fun m =>
  match m.checkActive latent with
  | .error e => .error e m
  | .ok () =>
    if m.mode? latent ≠ some .formative then .error (.noSuchSlot latent index) m
    else
      match (m.withSlots latent).setGlobalText? latent index text with
      | none => .error (.noSuchSlot latent index) (m.withSlots latent)
      | some m => .ok () (m.resolveScaling latent)

/-! ### The higher-order construct and the short code -/

/-- Chooses the mode of the higher-order construct.  Without a mode its rule and its global items
are dropped. -/
def chooseSecondOrder (mode : Option Mode) : Editing Unit := fun m =>
  match mode with
  | none => .ok () { m with configuration.secondOrder := {} }
  | some mode =>
    let m : Model := { m with configuration.secondOrder.mode := some mode }
    let m := if mode = .formative then m.withSlots .secondOrder else m
    .ok () (m.resolveScaling .secondOrder)

/-- Chooses the short code of the construct.  A code of which nothing is left in normal form
withdraws the choice. -/
def chooseShortCode (code : Option String) : Editing Unit := fun m =>
  .ok () { m with configuration.shortCode := (code.map Text.normalizeCode).filter (· != "") }

end Model

/-! ### Edits as data -/

/-- An edit with what the user has entered. -/
inductive Edit
  | mode (facetId : String) (mode : Mode)
  | method (latent : Latent) (method : ScalingMethod)
  | reference (latent : Latent) (reference : String)
  | exclusion (itemId : Int64) (excluded : Bool)
  | globalText (latent : Latent) (index : Nat) (text : String)
  | secondOrder (mode : Option Mode)
  | shortCode (code : Option String)
  deriving DecidableEq

/-- Carries out an edit. -/
def Edit.apply : Edit → Editing Unit
  | .mode facetId chosen => Model.chooseMode facetId chosen
  | .method latent chosen => fun m =>
    match Model.chooseMethod latent chosen m with
    | .ok _ m => .ok () m
    | .error e m => .error e m
  | .reference latent chosen => Model.chooseReference latent chosen
  | .exclusion itemId excluded => Model.chooseExclusion itemId excluded
  | .globalText latent index text => Model.writeGlobal latent index text
  | .secondOrder chosen => Model.chooseSecondOrder chosen
  | .shortCode code => Model.chooseShortCode code

end Psychometrics
