import Psychometrics.Cache.Key
import Psychometrics.Listing.Basic

/-!
# The compile cache

A cache remembers compiled texts by the key of the model and the options.  It holds a bounded number
of them and starts afresh when one more would exceed the bound.  It also counts how often a text was
found.
-/

namespace Psychometrics

/-- Compiled texts by key, and the number of times that one was found. -/
structure Cache where
  entries : List (String × String) := []
  hits : Nat := 0

namespace Cache

/-- How many texts a cache holds at most. -/
def capacity : Nat :=
  64

/-- The number of texts in a cache. -/
def size (cache : Cache) : Nat :=
  cache.entries.length

/-- The text that is remembered for a model under given options. -/
def find? (cache : Cache) (m : Model) (options : ListingOptions) : Option String :=
  cache.entries.lookup (m.key options)

/-- The entries that are kept when another one is added. -/
def kept (cache : Cache) : List (String × String) :=
  if capacity ≤ cache.size then [] else cache.entries

/-- The text of a model, remembered or compiled, with the cache that remembers it. -/
def compile (cache : Cache) (m : Model) (options : ListingOptions) : String × Cache :=
  match cache.find? m options with
  | some text => (text, { cache with hits := cache.hits + 1 })
  | none =>
    let text := m.text options
    (text, { cache with entries := (m.key options, text) :: cache.kept })

/-- Forgets all texts, but not how often one was found. -/
def clear (cache : Cache) : Cache :=
  { cache with entries := [] }

/-- Whether a text has been remembered or not, the cache remembers it afterwards. -/
theorem find?_compile (cache : Cache) (m : Model) (options : ListingOptions) :
    (cache.compile m options).2.find? m options = some (cache.compile m options).1 := by
  unfold compile
  cases h : cache.find? m options with
  | some text => simpa [find?] using h
  | none => simp [find?]

/-- There is room for one more entry beside the ones that are kept. -/
theorem length_kept_lt (cache : Cache) : cache.kept.length < capacity := by
  by_cases h : capacity ≤ cache.size
  · rw [kept, if_pos h]
    decide
  · rw [kept, if_neg h]
    exact Nat.lt_of_not_le h

/-- A cache within its bound stays within it. -/
theorem size_compile_le {cache : Cache} (h : cache.size ≤ capacity) (m : Model)
    (options : ListingOptions) : (cache.compile m options).2.size ≤ capacity := by
  unfold compile
  cases cache.find? m options with
  | some text => exact h
  | none => exact cache.length_kept_lt

end Cache

end Psychometrics
