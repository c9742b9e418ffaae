import Psychometrics.Cache.Basic
import Psychometrics.Session.Edit
import Psychometrics.Session.Timer

/-!
# Editing sessions

A session owns a model while it is being edited.  After every edit the relations are rebuilt, the
model is compiled anew, and a save is put off by the delay of the timer.  A save writes the
configuration together with what was derived from it.

The clock is an input: `now` is the time of an operation in ticks of a clock whose resolution is one
of the settings, and `stamp` is the date that goes into compiled texts and saved configurations.
-/

namespace Psychometrics

/-- The settings of a session.  The delay of saves is given in milliseconds, of which each has as
many ticks of the clock as the resolution says. -/
structure SessionOptions where
  listing : ListingOptions := {}
  delay : Nat := Timer.defaultDelay
  resolution : Nat := 1
  deriving DecidableEq

/-- The timer of a session with nothing pending. -/
def SessionOptions.timer (options : SessionOptions) : Timer :=
  Timer.ofDelay (options.delay * options.resolution) options.resolution

/-- A session: its model, the store behind it, its settings, the timer of the next save, the compile
cache, and the present compiled text. -/
structure Session where
  model : Model
  store : Store
  options : SessionOptions
  timer : Timer
  cache : Cache
  compiled : Compiled

namespace Session

/-! ### Opening -/

/-- Opens a session on an instrument and a store.  If what was stored had to be brought up to date,
a save is scheduled. -/
def load (instrument : Instrument) (store : Store) (options : SessionOptions) (now : Nat)
    (stamp : Timestamp) : Except StoreError Session := do
  let (model, upgraded) := Model.load instrument (← store.load)
  let (text, cache) := Cache.compile {} model options.listing
  return {
    model, store, options, cache
    timer := if upgraded then options.timer.schedule now else options.timer
    compiled := ⟨text, stamp⟩ }

/-! ### Edits -/

/-- Compiles the model anew. -/
def recompile (s : Session) (stamp : Timestamp) : Session :=
  let (text, cache) := s.cache.compile s.model s.options.listing
  { s with cache, compiled := ⟨text, stamp⟩ }

/-- What follows every successful edit: the relations are rebuilt, the model is compiled, and a save
is scheduled. -/
def afterEdit (s : Session) (now : Nat) (stamp : Timestamp) : Session :=
  let rebuilt : Session := { s with model.configuration.indicators := s.model.indicators }
  let compiled := rebuilt.recompile stamp
  { compiled with timer := compiled.timer.schedule now }

/-- Carries out an edit. -/
def edit (e : Edit) (now : Nat) (stamp : Timestamp) : EStateM EditError Session Unit := fun s =>
  match e.apply s.model with
  | .ok _ model => .ok () ({ s with model }.afterEdit now stamp)
  | .error cause model => .error cause { s with model }

/-! ### Saving -/

/-- The configuration as it is saved. -/
def payload (s : Session) (stamp : Timestamp) : Configuration :=
  { s.model.configuration with
    indicators := s.model.indicators
    compiled := some s.compiled
    updatedAt := some stamp }

/-- Writes the configuration to the store; a failure leaves the session as it was. -/
def save (stamp : Timestamp) : EStateM EditError Session Unit := fun s =>
  match s.store.write (s.payload stamp) with
  | .ok store => .ok () { s with store, model.configuration := s.payload stamp }
  | .error cause => .error (.store cause) s

/-- Saves if a save is due, and says whether it did. -/
def poll (now : Nat) (stamp : Timestamp) : EStateM EditError Session Bool := fun s =>
  let (due, timer) := s.timer.takeDue now
  if due then
    match save stamp { s with timer } with
    | .ok _ s => .ok true s
    | .error cause s => .error cause s
  else .ok false s

/-- Saves at once, in place of any pending save. -/
def flush (stamp : Timestamp) : EStateM EditError Session Unit := fun s =>
  save stamp { s with timer := s.timer.cancel }

end Session

end Psychometrics
