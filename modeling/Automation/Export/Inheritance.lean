import Automation.Diagnostic.Basic
import Automation.Export.Describe

/-!
# Inheritance

What an interface derives from, and what a class implements: which interfaces, in which order, and
which of them is the default.
-/

namespace Automation.Export

open Library Source

/-- What an interface derives from. -/
inductive BaseInterface where
  /-- An exported interface of the unit with the same binding. -/
  | own (id : TypeId) (handle : Handle)
  /-- A standard contract. -/
  | standard (ref : TypeRef)
  deriving DecidableEq, Repr

/-- The reference to the base. -/
def BaseInterface.ref : BaseInterface → TypeRef
  | own _ handle => .own handle
  | standard ref => ref

/-- The base within the unit. -/
def BaseInterface.id? : BaseInterface → Option TypeId
  | own id _ => some id
  | standard _ => none

/-- The base of an interface: the first one that it declares, if that is exported from the same unit
with the same binding, and else the standard contract. -/
def interfaceBase? (refs : ReferenceTable) (t : TypeDecl) (binding : Binding) :
    Option BaseInterface :=
  let own := match t.interfaces.head? with
    | some (.named id) =>
      match refs.own? id with
      | some ref => if ref.target = .interface binding then some (.own id ref.handle) else none
      | none => none
    | _ => none
  own <|> (refs.standard? binding.standardBase).map .standard

/-- What an expression in an implements position stands for. -/
inductive Implemented where
  | found (ref : TypeRef)
  /-- An interface that is never exported: nothing is said of it. -/
  | unexported
  /-- What should be there and is not, by name. -/
  | missing (name : String)
  deriving DecidableEq, Repr

/-- The reference that was found. -/
def Implemented.ref? : Implemented → Option TypeRef
  | found ref => some ref
  | unexported | missing _ => none

/-- What an expression in an implements position stands for. -/
def implemented (s : Scope) : TypeExpr → Implemented
  | .named id =>
    let absent := match s.type? id with
      | some t => if !t.isVisible || t.isGeneric then .unexported else .missing t.qualified
      | none => .missing (TypeExpr.named id).spelling
    match s.refs.own? id with
    | some ref => if ref.target.isInterface then .found (.own ref.handle) else absent
    | none => absent
  | .external type =>
    match s.refs.external? type with
    | some ref => if ref.kind = .interface then .found ref.ref else .missing type.qualified
    | none => .missing type.qualified
  | .generic _ => .unexported
  | other => .missing other.spelling

/-- What a class implements. -/
structure ClassImplements where
  /-- In library order. -/
  entries : List ImplementedType
  /-- The default interface. -/
  default : TypeRef
  deriving DecidableEq, Repr

/-- The warning that an interface is skipped. -/
def skippedInterface (subject name : String) : Diagnostic where
  code := .interfaceSkipped
  severity := .warning
  message := s!"interface `{name}` has no descriptor and is skipped"
  subject := some subject

/-- The warnings about the interfaces that are missing. -/
def skippedInterfaces (subject : String) (interfaces : List Implemented) : List Diagnostic :=
  interfaces.filterMap fun
    | .missing name => some (skippedInterface subject name)
    | .found _ | .unexported => none

/-- The warning that the declared default interface cannot be resolved. -/
def unresolvedDefault (subject spelling : String) : Diagnostic where
  code := .defaultUnresolved
  severity := .warning
  message := s!"default interface `{spelling}` cannot be resolved"
  subject := some subject
  notes := ["the next candidate is used instead"]

/-- An incoming interface of a class, marked if it is the default. -/
def incoming (default ref : TypeRef) : ImplementedType where
  ref := ref
  flags := ImplementedFlags.default.onlyIf (ref == default)

/-- The outgoing interfaces of a class, of which the first is marked. -/
def outgoing : List TypeRef → List ImplementedType
  | [] => []
  | first :: others =>
    ⟨first, ImplementedFlags.source ||| ImplementedFlags.default⟩
      :: others.map fun ref => ⟨ref, ImplementedFlags.source⟩

/-- What a class implements: the interface made from its members, the interfaces that it declares,
the declared default if it is new, and the outgoing interfaces. The default is the declared one, or
else the first. A class that has none implements the identity contract, and there is no answer only
if that is not imported. -/
def classImplements (s : Scope) (t : TypeDecl) (classInterface : Option Handle) :
    Option ClassImplements × List Diagnostic :=
  let declared := t.interfaces.map (implemented s)
  let skipped := skippedInterfaces t.qualified declared
  let explicit := t.classInfo.defaultInterface.bind fun type => (implemented s type).ref?
  let unresolved := match t.classInfo.defaultInterface, explicit with
    | some type, none => [unresolvedDefault t.qualified type.spelling]
    | _, _ => []
  let made := classInterface.map TypeRef.own
  let refs := (made.toList ++ declared.filterMap Implemented.ref? ++ explicit.toList).eraseDups
  let sources := t.classInfo.sources.map (implemented s)
  match explicit <|> made <|> refs.head? <|> s.refs.standard? Standard.unknownIndex with
  | none => (none, skipped ++ unresolved)
  | some default =>
    let incomingRefs := if refs.isEmpty then [default] else refs
    let entries := incomingRefs.map (incoming default)
      ++ outgoing (sources.filterMap Implemented.ref?)
    (some { entries := entries, default := default },
      skipped ++ unresolved ++ skippedInterfaces t.qualified sources)

end Automation.Export
