import Automation.Export.Function
import Automation.Export.Inheritance
import Automation.Export.NamedType

/-!
# Contents of a library

What goes into the types of a library once each has its place: what they implement, their functions
and their variables. Interfaces are filled bases first, so that each knows what it inherits.
-/

namespace Automation.Export

open Library Source

/-- The interface made from the members of a class. -/
structure ClassInterface where
  name : String
  handle : Handle
  binding : Binding
  deriving DecidableEq, Repr

/-- A type that has its place in the library. -/
structure Placed where
  type : Classified
  name : String
  handle : Handle
  classInterface : Option ClassInterface
  constants : List (Option String)

/-- What the contents of a library are made with. -/
structure Setting where
  scope : Scope
  resolver : Resolver
  settings : Settings

/-- What the functions of an interface are made with. -/
def Setting.synthesis (s : Setting) (binding : Binding) : Synthesis where
  scope := s.scope
  resolver := s.resolver
  settings := s.settings
  binding := binding

/-! ## What the types implement -/

/-- The error that the standard library is needed and not imported. -/
def standardAbsent (name : String) : ExportError :=
  .internal (name ++ " needs the standard library, which was not imported")

/-- The request for an implemented type. -/
def implement (name : String) (handle : Handle) (index : Nat) (entry : ImplementedType) : Step :=
  .request (implementedContext name) (.addImplemented handle index entry.ref entry.flags)

/-- The base of a placed interface. -/
def Placed.base? (p : Placed) (refs : ReferenceTable) : Option BaseInterface :=
  p.type.target.binding?.bind (interfaceBase? refs p.type.decl)

/-- What a placed class implements, and the warnings about that. -/
def Placed.implements (p : Placed) (scope : Scope) : Option ClassImplements × List Diagnostic :=
  classImplements scope p.type.decl (p.classInterface.map (·.handle))

/-- The base of the interface made from the members of a class. -/
def classInterfaceBase (refs : ReferenceTable) (c : ClassInterface) : List Step :=
  match refs.standard? c.binding.standardBase with
  | some ref => [implement c.name c.handle 0 ⟨ref, Flags.none⟩]
  | none => [.abort (standardAbsent c.name)]

/-- The steps that say what a type derives from or implements. -/
def inheritanceSteps (scope : Scope) (p : Placed) : List Step :=
  match p.type.target with
  | .interface _ =>
    match p.base? scope.refs with
    | some base => [implement p.name p.handle 0 ⟨base.ref, Flags.none⟩]
    | none => [.abort (standardAbsent p.name)]
  | .coClass _ _ =>
    let (implements, warnings) := p.implements scope
    let entries := match implements with
      | some c => c.entries.zipIdx.map fun (entry, index) => implement p.name p.handle index entry
      | none => [.abort (standardAbsent p.name)]
    p.classInterface.toList.flatMap (classInterfaceBase scope.refs)
      ++ warnings.map Step.raise ++ entries
  | .enumeration | .record => []

/-- The default interface of a placed class. -/
def Placed.default? (p : Placed) (scope : Scope) : Option TypeRef :=
  match p.type.target with
  | .coClass _ _ => (p.implements scope).1.map (·.default)
  | .interface _ | .enumeration | .record => none

/-- The reference table in which the classes have their default interfaces. -/
def withDefaults (scope : Scope) (placed : List Placed) : ReferenceTable :=
  placed.foldl (fun refs p =>
    match p.default? scope with
    | some default => refs.setDefault p.type.id default
    | none => refs) scope.refs

/-! ## Interfaces -/

/-- The requests for a function. -/
def functionSteps (name : String) (handle : Handle) (index : Nat) (f : SynthesizedFunction) :
    List Step :=
  let context := functionContext name f.name
  [.request context (.addFunction handle index f.desc),
    .request context (.setFunctionNames handle index f.names)]
    ++ f.doc.toList.map fun doc => .request context (.setFunctionDoc handle index doc)

/-- The steps for the functions of an interface. -/
def interfaceSteps (name : String) (handle : Handle) (made : InterfaceFunctions) : List Step :=
  made.remarks.map Step.remark
    ++ made.functions.zipIdx.flatMap fun (f, index) => functionSteps name handle index f

/-- A type as far as the order of filling goes. -/
structure Link where
  id : TypeId
  isInterface : Bool
  /-- The base of an interface within the unit. -/
  base : Option TypeId
  deriving DecidableEq, Repr

/-- The place of the base of the type at a place. -/
def nextBase (links : List Link) (place : Nat) : Option Nat :=
  (links[place]?.bind (·.base)).bind fun base => links.findIdx? fun link => link.id == base

/-- The places of the interfaces. -/
def interfacePlaces (links : List Link) : List Nat :=
  (List.range links.length).filter fun place => (links[place]?.map (·.isInterface)).getD false

/-- The places of the interfaces, bases before what derives from them. A cycle is cut where it
closes. -/
def baseFirst (links : List Link) : List Nat :=
  walks (nextBase links) (interfacePlaces links) (List.range links.length)

/-- A placed type as far as the order of filling goes. -/
def Placed.link (p : Placed) (refs : ReferenceTable) : Link where
  id := p.type.id
  isInterface := p.type.target.isInterface
  base := (p.base? refs).bind BaseInterface.id?

/-- The functions of an interface, given what the interfaces before it pass on. -/
def Placed.interfaceFunctions (p : Placed) (s : Setting) (binding : Binding)
    (passedOn : List (TypeId × Inherited)) : InterfaceFunctions :=
  let base := match (p.base? s.scope.refs).bind BaseInterface.id? with
    | some id => (passedOn.lookup id).getD {}
    | none => {}
  Export.interfaceFunctions (s.synthesis binding) p.type.decl base

/-- The steps for the functions of interfaces in the given order. -/
def fillInterfaces (s : Setting) (passedOn : List (TypeId × Inherited)) : List Placed → List Step
  | [] => []
  | p :: later =>
    match p.type.target.binding? with
    | some binding =>
      let made := p.interfaceFunctions s binding passedOn
      interfaceSteps p.name p.handle made
        ++ fillInterfaces s ((p.type.id, made.inherited) :: passedOn) later
    | none => fillInterfaces s passedOn later

/-- The steps for the functions of all interfaces. -/
def interfacesSteps (s : Setting) (placed : List Placed) : List Step :=
  let order := baseFirst (placed.map fun p => p.link s.scope.refs)
  fillInterfaces s [] (order.filterMap (placed[·]?))

/-- The steps for the functions of the interface made from the members of a class. -/
def classInterfaceSteps (s : Setting) (p : Placed) : List Step :=
  match p.classInterface with
  | some c =>
    interfaceSteps c.name c.handle (interfaceFunctions (s.synthesis c.binding) p.type.decl {})
  | none => []

/-! ## Records and enums -/

/-- The id of the first field of a record. -/
def firstFieldId : MemberId := 0x40000000

/-- The requests for a variable. -/
def variableSteps (type : String) (handle : Handle) (index : Nat) (desc : VariableDesc)
    (name : String) (doc : Option String) : List Step :=
  let context := variableContext type name
  [.request context (.addVariable handle index desc),
    .request context (.setVariableName handle index name)]
    ++ doc.toList.map fun text => .request context (.setVariableDoc handle index text)

/-- The position of a field's type. -/
def fieldPosition : Position where
  isField := true

/-- The warning that a field is left out. -/
def excludedField (subject name : String) (error : DescribeError) : Diagnostic where
  code := .fieldExcluded
  severity := .warning
  message := s!"field `{name}` is not exported"
  subject := some subject
  notes := [error.message]

/-- The steps for a described field that becomes the variable at an index. -/
def fieldSteps (s : Setting) (p : Placed) (index : Nat) (f : Field) (described : Described) :
    List Step :=
  let owner := p.type.decl
  let subject := owner.qualified ++ "." ++ f.name
  let question := fieldQuestion owner f
  described.degradations.map (fun d => Step.raise (degraded subject d))
    ++ match idAfter? firstFieldId index with
      | none => [.abort (.internal s!"`{p.name}` has too many fields")]
      | some memid =>
        let desc : VariableDesc := { memid := memid, content := .field { type := described.type } }
        .ask question :: variableSteps p.name p.handle index desc (s.resolver question) f.doc

/-- The steps for the fields of a record from an index on. -/
def fieldsSteps (s : Setting) (p : Placed) (index : Nat) : List Field → List Step
  | [] => []
  | f :: later =>
    match s.scope.describe f.type f.marshal fieldPosition with
    | .ok described => fieldSteps s p index f described ++ fieldsSteps s p (index + 1) later
    | .error error =>
      let subject := p.type.decl.qualified ++ "." ++ f.name
      .raise (excludedField subject f.name error) :: fieldsSteps s p index later

/-- The steps for the fields of a record. -/
def recordSteps (s : Setting) (p : Placed) : List Step :=
  match p.type.target with
  | .record => fieldsSteps s p 0 (p.type.decl.fields.filter (·.isPublic))
  | _ => []

/-- The warning that a constant is left out. -/
def excludedConstant (subject : String) (value : Int) : Diagnostic where
  code := .constantExcluded
  severity := .warning
  message := s!"value {value} does not fit a 32-bit constant"
  subject := some subject

/-- The steps for the constants of an enum from an index on, with their names. -/
def constantsSteps (p : Placed) (index : Nat) : List (EnumConstant × Option String) → List Step
  | [] => []
  | (c, some name) :: later =>
    let desc : VariableDesc :=
      { memid := MemberId.none, content := .constant (.i4 (Int32.ofInt c.value)) }
    variableSteps p.name p.handle index desc name c.doc ++ constantsSteps p (index + 1) later
  | (c, none) :: later =>
    let subject := p.type.decl.qualified ++ "." ++ c.name
    .raise (excludedConstant subject c.value) :: constantsSteps p index later

/-- The steps for the constants of an enum. -/
def enumSteps (p : Placed) : List Step :=
  match p.type.target with
  | .enumeration => constantsSteps p 0 (p.type.decl.constants.zip p.constants)
  | _ => []

/-! ## The whole -/

/-- A type of a library, in creation order. -/
structure ExportedType where
  name : String
  kind : TypeKind
  handle : Handle
  /-- The source type: none for an interface made from a class. -/
  id : Option TypeId := none
  /-- The qualified name of the source type. -/
  source : Option String := none
  /-- The default interface of a class, if it is one of the same library. -/
  defaultInterface : Option Handle := none
  deriving DecidableEq, Repr

/-- The types that a placed type stands for: the interface made from its members, and itself. -/
def Placed.exported (p : Placed) (refs : ReferenceTable) : List ExportedType :=
  let made := p.classInterface.toList.map fun c =>
    { name := c.name, kind := c.binding.typeKind, handle := c.handle : ExportedType }
  let default := match (refs.own? p.type.id).bind (·.default) with
    | some (.own handle) => some handle
    | _ => none
  made ++ [{ name := p.name, kind := p.type.target.typeKind, handle := p.handle
             id := some p.type.id, source := some p.type.decl.qualified
             defaultInterface := default }]

/-- The step that lays a type out. -/
def layoutStep (t : ExportedType) : Step := .request (layoutContext t.name) (.layOut t.handle)

/-- The types of the library, and the script that fills and lays out the placed types. The scope has
no default interfaces yet. -/
def contents (s : Setting) (placed : List Placed) : List ExportedType × List Step :=
  let refs := withDefaults s.scope placed
  let filled := { s with scope := { s.scope with refs := refs } }
  let exported := placed.flatMap (·.exported refs)
  (exported,
    placed.flatMap (inheritanceSteps s.scope)
      ++ interfacesSteps filled placed
      ++ placed.flatMap (classInterfaceSteps filled)
      ++ placed.flatMap (recordSteps filled)
      ++ placed.flatMap enumSteps
      ++ exported.map layoutStep)

end Automation.Export
