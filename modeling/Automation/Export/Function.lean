import Automation.Export.Describe
import Automation.Export.DispatchIds
import Automation.Export.Remark
import Automation.Export.VirtualTable
import Automation.Text.Numbered

/-!
# Functions of an interface

`synthesize` makes the function of one member: accessors are told apart by how they are invoked, and
where status codes are returned the result becomes one more parameter. `interfaceFunctions` makes
those of all members, numbers them, places them in the virtual table and tells names apart.
-/

namespace Automation.Export

open Library Source

/-- The name of the parameter that receives a result. -/
def resultName : String := "pRetVal"

/-- What functions are made with. -/
structure Synthesis where
  scope : Scope
  resolver : Resolver
  settings : Settings
  binding : Binding

/-- A function of an interface, before it is written. -/
structure SynthesizedFunction where
  desc : FunctionDesc
  /-- The name of the function and those of its parameters. -/
  names : List String
  doc : Option String
  /-- The property of an accessor, as names are compared. -/
  property : Option String
  /-- The dispatch id that the member declares. -/
  requested : Option MemberId
  deriving DecidableEq, Repr

/-- What decides the identity of the function. -/
def SynthesizedFunction.claimant (f : SynthesizedFunction) : Claimant where
  property := f.property
  invoke := f.desc.invoke
  requested := f.requested

/-- The name of the function. -/
def SynthesizedFunction.name (f : SynthesizedFunction) : String := f.names.headD ""

/-- How a member is invoked. A setter puts by reference if its value is an object reference. -/
def invokeKind? (s : Scope) (m : Member) : Option InvokeKind :=
  match m.role with
  | .method => some .function
  | .getter _ => some .propertyGet
  | .setter _ =>
    match m.params.getLast? with
    | some value => some (if s.isObjectRef value.type then .propertyPutRef else .propertyPut)
    | none => some .propertyPut
  | .creator => none

/-- Whether a member's function returns a status code. -/
def returnsStatus (binding : Binding) (m : Member) (settings : Settings) : Bool :=
  !m.preserveSig && binding.rawStatus settings

/-- The flags of a parameter. -/
def parameterFlags (p : Parameter) : ParameterFlags :=
  let direction := match p.direction with
    | .input => ParameterFlags.input
    | .output => ParameterFlags.output
    | .both => ParameterFlags.input ||| ParameterFlags.output
  direction ||| ParameterFlags.optional.onlyIf p.isOptional

/-- The flags of a function. -/
def functionFlags (m : Markers) : FunctionFlags :=
  FunctionFlags.hidden.onlyIf m.hidden ||| FunctionFlags.restricted.onlyIf m.restricted

/-- The variant of a declared default, in the narrower integer type if it fits. A character beyond
the basic plane has none. -/
def defaultVariant? : DefaultConstant → Option Variant
  | .null => some .empty
  | .bool value => some (.bool value)
  | .char value =>
    if value.toNat < 0x10000 then some (.ui2 (UInt16.ofNat value.toNat)) else none
  | .i64 value =>
    if -0x80000000 ≤ value.toInt ∧ value.toInt ≤ 0x7FFFFFFF then some (.i4 value.toInt32)
    else some (.i8 value)
  | .u64 value =>
    if value.toNat ≤ 0xFFFFFFFF then some (.ui4 value.toUInt32) else some (.ui8 value)
  | .f64 bits => some (.r8 bits)
  | .str value => some (.bstr value)

/-- A parameter with its descriptor. -/
def parameterElement (p : Parameter) (described : Described) : Element :=
  let element : Element := { type := described.type, flags := parameterFlags p }
  match p.defaultValue.bind defaultVariant? with
  | some value => element.withDefault value.encode
  | none => element

/-- The parameter that receives a described result. -/
def resultElement (described : Described) : Element where
  type := .pointer described.type
  flags := ParameterFlags.output ||| ParameterFlags.result

/-- The position of a parameter. -/
def parameterPosition (p : Parameter) : Position where
  byRef := p.byRef

/-- The position of a return type. -/
def returnPosition : Position where
  isReturn := true

/-- The descriptors of a signature. -/
structure Signature where
  params : List Described
  ret : Described
  deriving DecidableEq, Repr

/-- What was lost in a signature. -/
def Signature.degradations (s : Signature) : List Degradation :=
  s.params.flatMap (·.degradations) ++ s.ret.degradations

/-- The descriptor of a parameter, or the reason why it has none. -/
def describeParameter (s : Scope) (p : Parameter) : Except DescribeError Described :=
  s.describe p.type p.marshal (parameterPosition p)

/-- The descriptors of the parameters, or the first parameter that has none and why. -/
def describeParameters (s : Scope) :
    List Parameter → Except (Parameter × DescribeError) (List Described)
  | [] => .ok []
  | p :: later =>
    match describeParameter s p with
    | .error error => .error (p, error)
    | .ok described =>
      match describeParameters s later with
      | .error failure => .error failure
      | .ok rest => .ok (described :: rest)

/-- The descriptors of a member's signature, or which part has none and why. -/
def describeSignature (s : Scope) (m : Member) : Except (String × DescribeError) Signature :=
  match describeParameters s m.params with
  | .error (p, error) => .error (s!"parameter `{p.name}`", error)
  | .ok params =>
    match s.describe m.ret m.retMarshal returnPosition with
    | .error error => .error ("return type", error)
    | .ok ret => .ok { params := params, ret := ret }

/-- The parameters that are named: all but the value of a setter. -/
def namedParameters (m : Member) : List Parameter :=
  match m.role with
  | .setter _ => m.params.dropLast
  | _ => m.params

/-- The qualified name of a member. -/
def memberSubject (owner : TypeDecl) (m : Member) : String := owner.qualified ++ "." ++ m.name

/-- The warning that a member is left out. -/
def excludedMember (subject part : String) (error : DescribeError) : Diagnostic where
  code := .memberExcluded
  severity := .warning
  message := s!"`{subject}` is not exported"
  subject := some subject
  notes := [part ++ ": " ++ error.message]

/-- The warning that something was lost in a descriptor. -/
def degraded (subject : String) : Degradation → Diagnostic
  | .genericObject name =>
    { code := .referenceDegraded
      severity := .warning
      message := s!"`{name}` has no descriptor; using the generic object"
      subject := some subject }
  | .enumAsInteger name =>
    { code := .enumDegraded
      severity := .warning
      message := s!"`{name}` has no descriptor; using its underlying integer"
      subject := some subject }

/-- The questions for the names of a member's function: parameters are asked for as they are
described. -/
def memberQuestions (s : Scope) (owner : TypeDecl) (m : Member) : List NameQuestion :=
  let described := (namedParameters m).takeWhile fun p => (describeParameter s p).toBool
  memberQuestion owner m :: described.map (parameterQuestion owner m)

/-- The function of a described member. -/
def assemble (y : Synthesis) (owner : TypeDecl) (m : Member) (invoke : InvokeKind)
    (signature : Signature) : SynthesizedFunction :=
  let params := List.zipWith parameterElement m.params signature.params
  let names := y.resolver (memberQuestion owner m)
    :: (namedParameters m).map fun p => y.resolver (parameterQuestion owner m p)
  let status := returnsStatus y.binding m y.settings
  let hasResult := status && signature.ret.type.elementType != .void
  let result := resultElement signature.ret
  { desc :=
      { memid := MemberId.none
        invoke := invoke
        kind := y.binding.functionKind
        params := if hasResult then params ++ [result] else params
        ret := { type := if status then .base .hresult else signature.ret.type }
        offset := 0
        flags := functionFlags m.markers }
    names := if hasResult then names ++ [resultName] else names
    doc := m.help
    property := m.property?.map Text.nameKey
    requested := m.dispid }

/-- The function of a member, unless it has none or its signature cannot be described, and what is
said about it. -/
def synthesize (y : Synthesis) (owner : TypeDecl) (m : Member) :
    Option SynthesizedFunction × List Remark :=
  match invokeKind? y.scope m with
  | none => (none, [])
  | some invoke =>
    let subject := memberSubject owner m
    let asked := (memberQuestions y.scope owner m).map Remark.asked
    match describeSignature y.scope m with
    | .error (part, error) => (none, asked ++ [.raised (excludedMember subject part error)])
    | .ok signature =>
      (some (assemble y owner m invoke signature),
        asked ++ signature.degradations.map fun d => .raised (degraded subject d))

/-- What an interface passes on to those that derive from it. -/
structure Inherited where
  /-- The dispatch ids of the functions. -/
  ids : List MemberId := []
  /-- How many slots the functions take. -/
  slots : Nat := 0
  /-- How many identities declared no id. -/
  automatic : Nat := 0
  deriving DecidableEq, Repr

/-- The first form of a name that no other identity has. The names in use are given, as they are
compared, with their identities. -/
def freeOverload (owners : List (String × Nat)) (name : String) (identity : Nat) : String :=
  let isTaken (n : Nat) : Bool :=
    match owners.lookup (Text.nameKey (Text.numbered name n)) with
    | some owner => owner != identity
    | none => false
  Text.numbered name (firstFree isTaken (owners.length + 1) 1)

/-- The names of functions told apart: functions of different identities get different names. -/
def tellApart (owners : List (String × Nat)) : List (String × Nat) → List String
  | [] => []
  | (name, identity) :: later =>
    let name := freeOverload owners name identity
    name :: tellApart ((Text.nameKey name, identity) :: owners) later

/-- The warning that an identity did not get the id it wanted. -/
def reassignedId (subject : String) (r : Reassignment) : Diagnostic where
  code := .idReassigned
  severity := .warning
  message := s!"dispatch id {r.wanted} is already in use; assigned {r.assigned}"
  subject := some subject

/-- The functions of an interface, what it passes on, and what is said about them. -/
structure InterfaceFunctions where
  functions : List SynthesizedFunction
  inherited : Inherited
  remarks : List Remark
  deriving DecidableEq, Repr

/-- The first automatic id of an interface: automatic ids go on after those of the bases, as long as
there are ids. -/
def firstAutoId (settings : Settings) (base : Inherited) : MemberId :=
  (idAfter? settings.firstAuto base.automatic).getD settings.firstAuto

/-- The function of one member with its place: its id, its offset and its name. -/
def SynthesizedFunction.placed (f : SynthesizedFunction) (memid : MemberId) (offset : Nat)
    (name : String) : SynthesizedFunction :=
  { f with
    desc := { f.desc with memid := memid, offset := offset }
    names := name :: f.names.drop 1 }

/-- The functions of an interface or class that derives from `base`. -/
def interfaceFunctions (y : Synthesis) (owner : TypeDecl) (base : Inherited) : InterfaceFunctions :=
  let made := (owner.members.filter Member.isExportable).map (synthesize y owner)
  let functions := made.filterMap (·.1)
  let grouping := groupIdentities (functions.map (·.claimant))
  let requests := grouping.identities.map (·.requested)
  let assignment := assignIds (firstAutoId y.settings base) base.ids requests
  let moved := assignment.reassigned.map fun r =>
    let name := match (grouping.places.idxOf? r.place).bind (functions[·]?) with
      | some f => f.name
      | none => ""
    Remark.raised (reassignedId (owner.qualified ++ "." ++ name) r)
  let table := VirtualTable.ofBinding y.binding base.slots y.settings.pointerWidth
  let names := tellApart [] ((functions.map (·.name)).zip grouping.places)
  let placed := ((functions.zip grouping.places).zip names).zipIdx.map
    fun (((f, place), name), index) =>
      f.placed (assignment.ids.getD place MemberId.none) (table.offset index) name
  { functions := placed
    inherited :=
      { ids := base.ids ++ placed.map (·.desc.memid)
        slots := base.slots + placed.length
        automatic := base.automatic + requests.countP fun r => (declared? r).isNone }
    remarks := made.flatMap (·.2) ++ moved }

end Automation.Export
