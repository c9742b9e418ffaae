import Psychometrics.Naming.Names

/-!
# The legend

The compiled text ends in a legend that leads from the variable names back to the texts of the
questionnaire.  It has an entry for every item, for every present global item, for every facet with
a short code of its own, and for the construct.  Each entry is a comment line.

An entry keeps the symbol that it explains, and whether that symbol is an excluded item.
-/

namespace Psychometrics

/-- An entry of the legend: a variable name, the symbol that bears it, what that symbol is, and its
text if it has one. -/
structure LegendEntry where
  name : String
  symbol : Symbol
  kind : String
  excluded : Bool := false
  text : Option String := none
  deriving DecidableEq

namespace LegendEntry

/-- The line of an entry. -/
def line (entry : LegendEntry) : String :=
  "# " ++ entry.name ++ " = " ++ entry.kind ++ (if entry.excluded then " (excluded)" else "") ++
    (match entry.text with
      | none => ""
      | some text => ": " ++ text)

end LegendEntry

namespace Legend

/-- The line that opens a legend. -/
def header : String :=
  "## Mapping"

/-- A text on one line, cut to a number of characters. -/
def clip (width : Nat) (text : String) : String :=
  String.ofList ((Text.oneLineChars text.toList).take width)

end Legend

namespace Model

/-! ### Entries -/

/-- The key of the latent variable that an item belongs to. -/
def ownerKey (m : Model) (item : Item) : String :=
  if m.isUnidimensional then Latent.unidimKey else item.facetId.getD ""

/-- The entries of the items. -/
def itemEntries (m : Model) (names : Names) (width : Nat) : List LegendEntry :=
  m.instrument.sortedItems.filterMap fun item =>
    (names.find? (.item item.id)).map fun name =>
      { name
        symbol := .item item.id
        kind := "item " ++ Text.ofInt item.id.toInt
        excluded := m.isExcluded (m.ownerKey item) item.id
        text := some (Legend.clip width item.text) }

/-- How the owner of a global item is called in the legend. -/
def ownerLabel (m : Model) : Latent → String
  | .facet id =>
    match m.instrument.facet? id with
    | some facet => Text.oneLine facet.label
    | none => id
  | _ => "higher-order construct"

/-- The entries of the present global items. -/
def globalEntries (m : Model) (names : Names) (width : Nat) : List LegendEntry :=
  m.globalOwners.flatMap fun latent =>
    (m.presentGlobals latent).filterMap fun item =>
      (names.find? (.global latent.key item.id)).map fun name =>
        { name
          symbol := .global latent.key item.id
          kind := "global reflective item of " ++ m.ownerLabel latent
          text := some (Legend.clip width item.text) }

/-- The entries of the facets with a short code. -/
def facetEntries (m : Model) (names : Names) : List LegendEntry :=
  m.instrument.facets.filterMap fun facet =>
    if facet.shortCode.isNone then none
    else
      (names.find? (.facet facet.id)).map fun name =>
        { name, symbol := .facet facet.id, kind := "facet " ++ Text.oneLine facet.label }

/-- The entry of the construct. -/
def overallEntry (m : Model) (names : Names) : LegendEntry :=
  let construct := Text.oneLine m.instrument.construct.name
  { name := names.overall
    symbol := .overall
    kind := if construct == "" then "overall construct" else "overall construct " ++ construct }

/-- The entries of the legend.  In a unidimensional model neither global items nor facets are
explained, since none of them occurs in a statement. -/
def legendEntries (m : Model) (names : Names) (width : Nat) : List LegendEntry :=
  m.itemEntries names width ++
    (if m.isUnidimensional then [] else m.globalEntries names width ++ m.facetEntries names) ++
    [m.overallEntry names]

/-- The lines of the legend. -/
def legendLines (m : Model) (names : Names) (width : Nat) : List String :=
  Legend.header :: (m.legendEntries names width).map LegendEntry.line

end Model

end Psychometrics
