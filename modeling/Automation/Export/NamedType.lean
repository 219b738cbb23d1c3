import Automation.Export.NameRegistry
import Automation.Export.ReferenceTable
import Automation.Export.Script

/-!
# Names of a library's types and constants

Types register first, in the order of the unit, so that their names go before those of class
interfaces and enum constants, which are reserved afterwards.
-/

namespace Automation.Export

open Source

/-- An exported type with its names in the library. -/
structure NamedType where
  type : Classified
  name : String
  /-- The name of the interface made from the members of a class. -/
  classInterface : Option String
  /-- The names of an enum's constants: none for those that are left out. -/
  constants : List (Option String)

/-- Whether a value fits a constant, which has 32 bits. -/
def fitsConstant (value : Int) : Bool := decide (-0x80000000 ≤ value) && decide (value ≤ 0x7FFFFFFF)

/-- A type that asks for its name. -/
def Classified.candidate (c : Classified) (resolver : Resolver) : Candidate where
  id := c.id
  space := c.decl.space
  qualified := c.decl.qualified
  name := resolver (typeQuestion c.decl)

/-- The registry in which the types have asked for their names, in order. -/
def registerTypes (resolver : Resolver) (registry : NameRegistry) :
    List Classified → NameRegistry × List Remark
  | [] => (registry, [])
  | c :: later =>
    let (registry, notes) := registry.addType (c.candidate resolver)
    let (registry, remarks) := registerTypes resolver registry later
    (registry, .asked (typeQuestion c.decl) :: notes.map Remark.raised ++ remarks)

/-- The names of constants, as far as their values fit. -/
def reserveConstants (resolver : Resolver) (owner : TypeDecl) (enumName : String)
    (registry : NameRegistry) :
    List EnumConstant → List (Option String) × NameRegistry × List Remark
  | [] => ([], registry, [])
  | c :: later =>
    if fitsConstant c.value then
      let question := constantQuestion owner enumName c
      let subject := owner.qualified ++ "." ++ c.name
      let (name, registry, notes) :=
        registry.reserve subject (resolver question) .constantRenamed
      let (names, registry, remarks) := reserveConstants resolver owner enumName registry later
      (some name :: names, registry, .asked question :: notes.map Remark.raised ++ remarks)
    else
      let (names, registry, remarks) := reserveConstants resolver owner enumName registry later
      (none :: names, registry, remarks)

/-- The name of the interface made from the members of a class, which goes by the name of the class
after an underscore. -/
def reserveClassInterface (registry : NameRegistry) (c : Classified) (name : String) :
    Option String × NameRegistry × List Remark :=
  if c.target.classInterface?.isSome then
    let (reserved, registry, notes) :=
      registry.reserve c.decl.qualified ("_" ++ name) .typeRenamed
    (some reserved, registry, notes.map Remark.raised)
  else (none, registry, [])

/-- The constants of an enum with their names. They go by the name that the enum asked for, whether
or not it got it. -/
def nameConstants (resolver : Resolver) (registry : NameRegistry) (t : TypeDecl) :
    List (Option String) × NameRegistry × List Remark :=
  match t.body with
  | .enumeration _ constants =>
    let question := typeQuestion t
    let (names, registry, remarks) :=
      reserveConstants resolver t (resolver question) registry constants
    (names, registry, .asked question :: remarks)
  | _ => ([], registry, [])

/-- The names of the types that have registered, and of what goes with them. -/
def nameRegistered (resolver : Resolver) (registry : NameRegistry) :
    List Classified → List NamedType × List Step
  | [] => ([], [])
  | c :: later =>
    match registry.typeName? c.id with
    | none => ([], [.abort (.internal s!"`{c.decl.qualified}` has no library name")])
    | some name =>
      let (classInterface, registry, first) := reserveClassInterface registry c name
      let (constants, registry, second) := nameConstants resolver registry c.decl
      let (named, steps) := nameRegistered resolver registry later
      let here : NamedType :=
        { type := c, name := name, classInterface := classInterface, constants := constants }
      (here :: named, (first ++ second).map Step.remark ++ steps)

/-- The names of the exported types, and of what goes with them. -/
def nameTypes (resolver : Resolver) (classified : List Classified) : List NamedType × List Step :=
  let (registry, remarks) := registerTypes resolver {} classified
  let (named, steps) := nameRegistered resolver registry classified
  (named, remarks.map Step.remark ++ steps)

end Automation.Export
