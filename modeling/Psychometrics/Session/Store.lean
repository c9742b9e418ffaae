import Psychometrics.Configuration.Json

/-!
# The store

A store keeps one configuration in its JSON form.  What it holds need not stem from this version, so
that loading may fail; writing fails while the store rejects writes, and then leaves the store as it
was.
-/

namespace Psychometrics

/-- Why a store did not do what it was asked to. -/
inductive StoreError
  | malformed
  | rejected
  deriving DecidableEq

/-- A store: what it holds, the number of successful writes, and whether it rejects writes. -/
structure Store where
  held : Option Json := none
  writes : Nat := 0
  rejecting : Bool := false

/-- The wording of a failure. -/
def StoreError.message : StoreError → String
  | .malformed => "stored document is not valid JSON"
  | .rejected => "storage backend rejected key \"data_step_4\": writes are rejected"

namespace Store

/-- A store that holds a given value. -/
def ofHeld (held : Option Json) : Store :=
  { held }

/-- The configuration in the store, or nothing when nothing was ever stored. -/
def load (store : Store) : Except StoreError (Option Configuration) :=
  match store.held with
  | none => .ok none
  | some value =>
    match Configuration.ofStored? value with
    | some configuration => .ok (some configuration)
    | none => .error .malformed

/-- Stores a configuration. -/
def write (store : Store) (configuration : Configuration) : Except StoreError Store :=
  if store.rejecting then .error .rejected
  else .ok { store with held := some configuration.toJson, writes := store.writes + 1 }

end Store

end Psychometrics
