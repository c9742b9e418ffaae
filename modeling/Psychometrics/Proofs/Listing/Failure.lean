import Psychometrics.Proofs.Listing.Lines
import Psychometrics.Proofs.Naming.Exhaustion
import Psychometrics.Proofs.Statement.Total

/-!
# When a model is not compiled

Compiling can fail in one way only: names run out.  Once the symbols of a model are named, its
statements exist, the legend skips what it finds no name for, and putting a text together is never
refused.  So a model is not compiled only if it has more than a thousand facets or more than a
thousand global items, and then its text is a comment of one line
(`Model.text?_eq_ok_or_nameExhausted`).
-/

namespace Psychometrics

namespace Model

variable {m : Model} {names : Names} {e : CompileError}

/-- A model whose symbols are named is compiled. -/
lemma exists_text?_eq_ok_of_names (hnames : m.names = .ok names) (options : ListingOptions) :
    ∃ text, m.text? options = .ok text := by
  obtain ⟨statements, hstatements⟩ := exists_statements_eq_ok hnames options.comments
  exact ⟨_, bind_eq_ok_iff.mpr
    ⟨names, hnames, bind_eq_ok_iff.mpr ⟨statements, hstatements, rfl⟩⟩⟩

/-- A model whose symbols cannot be named is not compiled, for the same reason. -/
lemma text?_eq_error_of_names (hnames : m.names = .error e) (options : ListingOptions) :
    m.text? options = .error e := by
  rw [text?, hnames]
  rfl

/-- A model is compiled under all options, unless names run out: a facet is left without a name
among more than a thousand, or a global item among more than a thousand of a facet or of the
higher-order construct.  The text of such a model is a comment of one line. -/
theorem text?_eq_ok_or_nameExhausted (m : Model) (options : ListingOptions) :
    (∃ text, m.text? options = .ok text) ∨
      ∃ symbol wanted, m.text? options = .error (.nameExhausted symbol wanted) ∧
        (((∃ id, symbol = .facet id) ∧ 1000 < m.facetIds.card) ∨
          ((∃ key id, symbol = .global key id) ∧ 1000 < m.globalKeys.card)) ∧
        ∃ line : List Char, (m.text options).toList = line ++ ['\n'] ∧
          line.head? = some '#' ∧ '\n' ∉ line := by
  cases hnames : m.names with
  | ok names => exact .inl (exists_text?_eq_ok_of_names hnames options)
  | error e =>
    obtain ⟨symbol, wanted, rfl, hmany⟩ := exhausted_of_names_eq_error hnames
    have herror := text?_eq_error_of_names hnames options
    refine .inr ⟨symbol, wanted, herror, hmany, ?_⟩
    rw [text_of_text?_eq_error herror]
    exact exists_failureText_eq _

/-- Such models exist: where all facets want one name, no more of them can be named than this name
has forms. -/
lemma exists_text?_eq_error {wanted : String}
    (hsame : ∀ facet ∈ m.instrument.facets, facetName facet = wanted)
    (hmany : 1001 < m.facetIds.card) (options : ListingOptions) :
    ∃ e, m.text? options = .error e := by
  obtain ⟨e, hnames⟩ := exists_names_eq_error hsame hmany
  exact ⟨e, text?_eq_error_of_names hnames options⟩

end Model

end Psychometrics
