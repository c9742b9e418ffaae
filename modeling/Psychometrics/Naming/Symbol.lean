import Psychometrics.Model.Basic
import Psychometrics.Text.Decimal
import Psychometrics.Text.Identifier

/-!
# Symbols

Everything that gets a variable name in the compiled text is a symbol: the construct as a whole, the
items, the global items of each latent variable, and the facets.  Each kind of symbol wants a name
of its own shape:

* the construct wants its short code,
* an item wants `i` and its number,
* a global item wants its id, which begins with `g_`,
* a facet wants its own short code or its name.

The names that the first three kinds want never coincide between kinds.  Facets are named after free
text, which is why they come last.
-/

namespace Psychometrics

/-- Something that gets a variable name.  A global item belongs to the latent variable with the
given key. -/
inductive Symbol
  | overall
  | item (id : Int64)
  | global (latentKey id : String)
  | facet (id : String)
  deriving DecidableEq, Hashable

namespace Symbol

/-- What is put in front of a name that is already taken. -/
def marker : Symbol → String
  | .overall => "O_"
  | .item _ => "i"
  | .global _ _ => "g_"
  | .facet _ => "F_"

/-- What kind of symbol it is, in words. -/
def kindName : Symbol → String
  | .overall => "overall construct"
  | .item _ => "item"
  | .global _ _ => "global indicator"
  | .facet _ => "facet"

/-- How a symbol is mentioned when it has no name. -/
def mention : Symbol → String
  | .overall => "overall construct"
  | .item id => "item " ++ Text.ofInt id.toInt
  | .global _ id => "global " ++ id
  | .facet id => id

end Symbol

/-! ### Wanted names -/

/-- A text begins with another. -/
def beginsWith (lead s : String) : Bool :=
  lead.toList.isPrefixOf s.toList

/-- The name an item wants. -/
def itemName (id : Int64) : String :=
  Text.sanitize ("i" ++ Text.ofInt id.toInt) "i"

/-- The name a global item wants. -/
def globalName (id : String) : String :=
  let base := Text.sanitize id "g"
  if beginsWith "g_" base then base else "g_" ++ base

/-- The name a facet wants: its short code, or its name if it has no short code, and its id if what
was chosen is blank. -/
def facetName (facet : Facet) : String :=
  Text.sanitize (Text.trim (facet.shortCode.getD facet.name)) ("F_" ++ Text.underscored facet.id)

namespace Model

/-- The name the construct wants. -/
def overallName (m : Model) : String :=
  Text.sanitize m.shortCode defaultShortCode

/-- The latent variables that may have global items. -/
def globalOwners (m : Model) : List Latent :=
  (m.instrument.facets.map fun facet => Latent.facet facet.id) ++ [.secondOrder]

/-- The symbols of a model beside the construct itself, each with the name it wants, in the order in
which they are named: items by id, global items by latent variable, facets in declaration order. -/
def nameRequests (m : Model) : List (Symbol × String) :=
  (m.instrument.sortedItems.map fun item => (Symbol.item item.id, itemName item.id)) ++
  (m.globalOwners.flatMap fun latent =>
    (m.globals latent).map fun item => (Symbol.global latent.key item.id, globalName item.id)) ++
  (m.instrument.facets.map fun facet => (Symbol.facet facet.id, facetName facet))

end Model

end Psychometrics
