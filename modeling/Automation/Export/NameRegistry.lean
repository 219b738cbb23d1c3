import Automation.Diagnostic.Basic
import Automation.FirstFree
import Automation.Source.TypeExpr
import Automation.Text.Lowercase
import Automation.Text.Numbered

/-!
# Unique names

The types and enum constants of a library share one set of names, blind to case. The first type to
ask for a name gets it. When a second one asks, both are put behind their namespaces and the plain
name is given to nobody. A name that is still taken gets a number.
-/

namespace Automation.Export

open Source Diagnostic

/-- A type that asks for a name. -/
structure Candidate where
  id : TypeId
  space : String
  /-- The qualified name, for diagnostics. -/
  qualified : String
  /-- The name asked for. -/
  name : String
  deriving DecidableEq, Repr

/-- The name of a candidate behind its namespace, with underscores for dots. -/
def Candidate.prefixed (c : Candidate) : String :=
  if c.space.isEmpty then c.name
  else String.ofList (c.space.toList.map fun ch => if ch = '.' then '_' else ch) ++ "_" ++ c.name

/-- What has become of a name. -/
inductive NameUse where
  /-- A type has it as its plain name. -/
  | held (candidate : Candidate)
  /-- It was asked for twice and belongs to nobody. -/
  | contested
  /-- It was given to a renamed type, a class interface or a constant. -/
  | reserved
  deriving DecidableEq, Repr

/-- The names of a library. -/
structure NameRegistry where
  /-- The names in use, as they are compared. The latest entry counts. -/
  uses : List (String × NameUse) := []
  /-- The names of the types. The latest entry counts. -/
  assigned : List (TypeId × String) := []
  deriving DecidableEq, Repr

namespace NameRegistry

/-- Whether a name is in use, whatever the case. -/
def isTaken (r : NameRegistry) (name : String) : Bool :=
  (r.uses.lookup (Text.nameKey name)).isSome

/-- The name itself, or the first numbered one that is free. -/
def freeName (r : NameRegistry) (wanted : String) : String :=
  let isTaken (n : Nat) : Bool := r.isTaken (Text.numbered wanted n)
  Text.numbered wanted (firstFree isTaken (r.uses.length + 1) 1)

/-- The registry with the use of a name recorded. -/
def record (r : NameRegistry) (name : String) (use : NameUse) : NameRegistry :=
  { r with uses := (Text.nameKey name, use) :: r.uses }

/-- The note that an entity goes by another name. -/
def renamed (code : Code) (subject name reason : String) : Diagnostic where
  code := code
  severity := .note
  message := s!"exported as `{name}`"
  subject := some subject
  notes := [reason]

/-- The registry with a type put behind its namespace, and the note of that. -/
def rename (r : NameRegistry) (c : Candidate) : NameRegistry × Diagnostic :=
  let name := r.freeName c.prefixed
  let r := r.record name .reserved
  ({ r with assigned := (c.id, name) :: r.assigned },
    renamed .typeRenamed c.qualified name s!"`{c.name}` is used by more than one exported type")

/-- The registry with a further type, and the notes of what was renamed. -/
def addType (r : NameRegistry) (c : Candidate) : NameRegistry × List Diagnostic :=
  match r.uses.lookup (Text.nameKey c.name) with
  | none =>
    let r := r.record c.name (.held c)
    ({ r with assigned := (c.id, c.name) :: r.assigned }, [])
  | some (.held holder) =>
    let (r, first) := (r.record c.name .contested).rename holder
    let (r, second) := r.rename c
    (r, [first, second])
  | some .contested | some .reserved =>
    let (r, note) := r.rename c
    (r, [note])

/-- A name for a class interface or a constant, the registry with it, and the note if it is not
the name that was wanted. -/
def reserve (r : NameRegistry) (subject wanted : String) (code : Code) :
    String × NameRegistry × List Diagnostic :=
  let name := r.freeName wanted
  let notes :=
    if name = wanted then []
    else [renamed code subject name s!"`{wanted}` is already used in this library"]
  (name, r.record name .reserved, notes)

/-- The name of a type. -/
def typeName? (r : NameRegistry) (id : TypeId) : Option String := r.assigned.lookup id

end NameRegistry

end Automation.Export
