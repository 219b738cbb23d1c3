import Automation.Source.Declaration

/-!
# Names and aliases

Every name that goes into a library is asked for: the question gives the kind of the entity, its
identity in the source, and the name it would have by default, which is its declared alias or its
own name. A resolver answers.
-/

namespace Automation.Export

open Source

/-- What kind of entity a name belongs to. -/
inductive NameKind where
  | type
  | member
  | property
  | parameter
  | enumConstant
  deriving DecidableEq, Repr

/-- The question for a name. -/
structure NameQuestion where
  kind : NameKind
  /-- The qualified name of the entity in the source. -/
  identity : String
  defaultName : String
  deriving DecidableEq, Repr

/-- What answers questions for names. -/
abbrev Resolver := NameQuestion → String

/-- The resolver that keeps every default name. -/
def Resolver.keep : Resolver := NameQuestion.defaultName

/-- A table of names that differ from the default ones. -/
structure AliasTable where
  entries : List ((NameKind × String) × String) := []

namespace AliasTable

/-- The table with an entry, which replaces one for the same entity. -/
def insert (t : AliasTable) (kind : NameKind) (identity name : String) : AliasTable :=
  ⟨((kind, identity), name) :: t.entries.filter fun entry => entry.1 != (kind, identity)⟩

/-- The number of entries. -/
def size (t : AliasTable) : Nat := t.entries.length

/-- The resolver that answers from the table, and else with the default name. -/
def resolver (t : AliasTable) : Resolver := fun q =>
  (t.entries.lookup (q.kind, q.identity)).getD q.defaultName

end AliasTable

/-- The question for the name of a type. -/
def typeQuestion (t : TypeDecl) : NameQuestion where
  kind := .type
  identity := t.qualified
  defaultName := t.exportName.getD t.name

/-- The question for the name of a member's function: accessors go by their property. -/
def memberQuestion (owner : TypeDecl) (m : Member) : NameQuestion :=
  let base := m.property?.getD m.name
  { kind := if m.property?.isSome then .property else .member
    identity := owner.qualified ++ "." ++ base
    defaultName := m.exportName.getD base }

/-- The question for the name of a parameter. -/
def parameterQuestion (owner : TypeDecl) (m : Member) (p : Parameter) : NameQuestion where
  kind := .parameter
  identity := owner.qualified ++ "." ++ m.name ++ "." ++ p.name
  defaultName := p.exportName.getD p.name

/-- The question for the name of a record's field. -/
def fieldQuestion (owner : TypeDecl) (f : Field) : NameQuestion where
  kind := .member
  identity := owner.qualified ++ "." ++ f.name
  defaultName := f.exportName.getD f.name

/-- The question for the name of an enum's constant: by default its alias, or else its name after
that of the enum. -/
def constantQuestion (owner : TypeDecl) (enumName : String) (c : EnumConstant) : NameQuestion where
  kind := .enumConstant
  identity := owner.qualified ++ "." ++ c.name
  defaultName := c.exportName.getD (enumName ++ "_" ++ c.name)

end Automation.Export
