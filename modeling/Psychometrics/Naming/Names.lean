import Psychometrics.Naming.Symbol
import Psychometrics.Text.Quoted
import Std.Data.HashMap
import Std.Data.HashSet

/-!
# Variable names

Names are handed out one symbol after the other.  A symbol gets the name it wants if that is free,
else the name behind the marker of its kind, else that name with the first free number from 2 to
1000.  A symbol that already has a name keeps it.

Names are distinct because a name is only ever given away while it is free.
-/

namespace Psychometrics

/-! ### Failures -/

/-- Why a model has no compiled text. -/
inductive CompileError
  | nameExhausted (symbol : Symbol) (wanted : String)
  | unnamed (symbol : Symbol)
  deriving DecidableEq

/-- The wording of a failure. -/
def CompileError.message : CompileError → String
  | .nameExhausted symbol wanted =>
    "could not allocate a unique variable name for " ++ symbol.kindName ++ " " ++ Text.quoted wanted
  | .unnamed symbol => Text.quoted symbol.mention ++ " has no variable name"

/-! ### Names -/

/-- The names given so far: that of the construct, those of all symbols, and the set of all names
that are no longer free. -/
structure Names where
  overall : String
  assigned : Std.HashMap Symbol String
  taken : Std.HashSet String

namespace Names

/-- The construct is the first to be named, and gets the name it wants. -/
def start (overall : String) : Names :=
  ⟨overall, Std.HashMap.emptyWithCapacity.insert .overall overall,
    Std.HashSet.emptyWithCapacity.insert overall⟩

/-- The name of a symbol. -/
def find? (names : Names) (symbol : Symbol) : Option String :=
  names.assigned[symbol]?

/-- The name of a symbol that has to have one. -/
def get (names : Names) (symbol : Symbol) : Except CompileError String :=
  match names.find? symbol with
  | some name => .ok name
  | none => .error (.unnamed symbol)

/-- The name of a latent variable: the single one and the higher-order one are the construct
itself. -/
def latent? (names : Names) : Latent → Option String
  | .unidim => some names.overall
  | .secondOrder => some names.overall
  | .facet id => names.find? (.facet id)

/-! ### Handing out names -/

/-- A name behind the marker of its kind, unless it begins with that marker already. -/
def marked (symbol : Symbol) (wanted : String) : String :=
  if beginsWith symbol.marker wanted then wanted else symbol.marker ++ wanted

/-- A name with a number. -/
def numbered (name : String) (n : Nat) : String :=
  name ++ "_" ++ Text.ofNat n

/-- The numbers that are tried, in order. -/
def numbers : List Nat :=
  List.range' 2 999

/-- The first free form of a wanted name. -/
def freeForm? (taken : Std.HashSet String) (symbol : Symbol) (wanted : String) : Option String :=
  if !taken.contains wanted then some wanted
  else if !taken.contains (marked symbol wanted) then some (marked symbol wanted)
  else
    (numbers.find? fun n => !taken.contains (numbered (marked symbol wanted) n)).map
      (numbered (marked symbol wanted))

/-- Names a symbol that has no name yet. -/
def add (names : Names) (request : Symbol × String) : Except CompileError Names :=
  if names.assigned.contains request.1 then .ok names
  else
    match freeForm? names.taken request.1 request.2 with
    | some name =>
      .ok { names with
        assigned := names.assigned.insert request.1 name, taken := names.taken.insert name }
    | none => .error (.nameExhausted request.1 request.2)

end Names

/-- The names of all symbols of a model. -/
def Model.names (m : Model) : Except CompileError Names :=
  m.nameRequests.foldlM Names.add (.start m.overallName)

/-! ### Free forms are free -/

/-- A free form is not taken. -/
theorem Names.not_contains_of_freeForm? {taken : Std.HashSet String} {symbol : Symbol}
    {wanted name : String} (h : freeForm? taken symbol wanted = some name) :
    taken.contains name = false := by
  unfold freeForm? at h
  split at h
  · next hw => simpa [← Option.some.inj h] using hw
  · split at h
    · next hm => simpa [← Option.some.inj h] using hm
    · obtain ⟨n, hn, rfl⟩ := Option.map_eq_some_iff.1 h
      simpa using List.find?_some hn

end Psychometrics
