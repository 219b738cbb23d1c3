import Automation.Library.Layout

/-!
# Libraries in memory

A draft keeps what it is told and rejects what a native builder would. Names of types and enum
constants are unique, whatever the case; a type that is laid out stays as it is; a library is
committed only with attributes and with every type laid out. `Draft.builder` is the builder that
keeps drafts.
-/

namespace Automation.Library

/-- A type under construction. -/
structure DraftType where
  info : TypeInfo
  laidOut : Bool := false
  deriving DecidableEq

/-- A library under construction. -/
structure Draft where
  attributes : Option Attributes := none
  types : List DraftType := []
  imports : List ImportedLibrary := []
  /-- The names in use, as they are compared. -/
  names : List String := []
  deriving DecidableEq

namespace Draft

/-- The types as they are so far. -/
def infos (d : Draft) : List TypeInfo := d.types.map (·.info)

/-- The draft with a name taken. -/
def claim (d : Draft) (name : String) : Except BuildError Draft :=
  let key := Text.nameKey name
  if d.names.contains key then .error (.duplicateName name)
  else .ok { d with names := key :: d.names }

/-- The type at a place. -/
def info (d : Draft) (type : Handle) : Except BuildError TypeInfo :=
  match d.types[type.index]? with
  | some t => .ok t.info
  | none => .error (.unknownHandle type.index)

/-- The type at a place, if it is not laid out. -/
def unfinished (d : Draft) (type : Handle) : Except BuildError TypeInfo :=
  match d.types[type.index]? with
  | some t => if t.laidOut then .error (.laidOut t.info.name) else .ok t.info
  | none => .error (.unknownHandle type.index)

/-- The draft with another type at a place. -/
def setInfo (d : Draft) (type : Handle) (info : TypeInfo) : Draft :=
  { d with types := d.types.modify type.index fun t => { t with info := info } }

/-- The draft with a type changed, unless the type is laid out or refuses the change. -/
def change (d : Draft) (type : Handle) (f : TypeInfo → Except BuildError TypeInfo) :
    Except BuildError Draft := do
  let info ← d.unfinished type
  let info ← f info
  return d.setInfo type info

/-- Whether a reference has a target. -/
def resolves (d : Draft) : TypeRef → Bool
  | .own handle => decide (handle.index < d.types.length)
  | .imported library index =>
    match d.imports[library.index]? with
    | some imported => decide (index < imported.typeNames.length)
    | none => false

/-- A list with one more element at an index. -/
def insertAt {α : Type} (type : String) (items : List α) (index : Nat) (item : α) :
    Except BuildError (List α) :=
  if index ≤ items.length then .ok (items.insertIdx index item)
  else .error (.indexOutOfRange type index items.length)

/-- A list with the element at an index changed. -/
def modifyAt {α : Type} (type : String) (items : List α) (index : Nat)
    (f : α → Except BuildError α) : Except BuildError (List α) :=
  match items[index]? with
  | some item => return items.set index (← f item)
  | none => .error (.indexOutOfRange type index items.length)

/-- The draft with a further type. -/
def createType (d : Draft) (name : String) (kind : TypeKind) :
    Except BuildError (Draft × Handle) := do
  let claimed ← d.claim name
  return ({ claimed with types := d.types ++ [{ info := { name := name, kind := kind } }] },
    ⟨d.types.length⟩)

/-- The draft with a further implemented type. An interface takes one, as its base. -/
def addImplemented (d : Draft) (type : Handle) (index : Nat) (ref : TypeRef)
    (flags : ImplementedFlags) : Except BuildError Draft := do
  let owner ← d.info type
  if !d.resolves ref then throw (.danglingReference owner.name)
  d.change type fun t => do
    if t.kind = .coClass ∨ (t.kind.isInterface ∧ t.implemented.isEmpty ∧ index = 0) then
      let implemented ← insertAt t.name t.implemented index ⟨ref, flags⟩
      return { t with implemented := implemented }
    else throw (.invalidKind t.name "implemented types")

/-- The draft with a further function. -/
def addFunction (d : Draft) (type : Handle) (index : Nat) (desc : FunctionDesc) :
    Except BuildError Draft :=
  d.change type fun t => do
    if !t.kind.isInterface then throw (.invalidKind t.name "functions")
    let functions ← insertAt t.name t.functions index { desc := desc }
    return { t with functions := functions }

/-- The draft with a further variable. -/
def addVariable (d : Draft) (type : Handle) (index : Nat) (desc : VariableDesc) :
    Except BuildError Draft :=
  d.change type fun t => do
    if !t.kind.hasVariables then throw (.invalidKind t.name "variables")
    let vars ← insertAt t.name t.vars index { desc := desc }
    return { t with vars := vars }

/-- The draft with names for a function and its parameters. -/
def setFunctionNames (d : Draft) (type : Handle) (index : Nat) (names : List String) :
    Except BuildError Draft :=
  d.change type fun t => do
    let functions ← modifyAt t.name t.functions index fun f =>
      let params := f.desc.params.length
      if names.length > params + 1 then throw (.tooManyNames t.name names.length params)
      else return { f with names := names }
    return { t with functions := functions }

/-- The draft with a name for a variable. The constants of enums share the names of types. -/
def setVariableName (d : Draft) (type : Handle) (index : Nat) (name : String) :
    Except BuildError Draft := do
  let renamed ← d.change type fun t => do
    let vars ← modifyAt t.name t.vars index fun v => return { v with name := name }
    return { t with vars := vars }
  let owner ← d.info type
  if owner.kind = .enumeration then renamed.claim name else return renamed

/-- The draft with a doc string for a function. -/
def setFunctionDoc (d : Draft) (type : Handle) (index : Nat) (doc : String) :
    Except BuildError Draft :=
  d.change type fun t => do
    let functions ← modifyAt t.name t.functions index fun f => return { f with doc := some doc }
    return { t with functions := functions }

/-- The draft with a doc string for a variable. -/
def setVariableDoc (d : Draft) (type : Handle) (index : Nat) (doc : String) :
    Except BuildError Draft :=
  d.change type fun t => do
    let vars ← modifyAt t.name t.vars index fun v => return { v with doc := some doc }
    return { t with vars := vars }

/-- The draft with a library in its import table, and the place of the entry. -/
def addImport (d : Draft) (library : ImportedLibrary) : Draft × ImportId :=
  match d.imports.findIdx? fun l => l.guid == library.guid with
  | some place => (d, ⟨place⟩)
  | none => ({ d with imports := d.imports ++ [library] }, ⟨d.imports.length⟩)

/-- The draft with a type marked as laid out. -/
def finish (d : Draft) (type : Handle) : Draft :=
  { d with types := d.types.modify type.index fun t => { t with laidOut := true } }

/-- The ids of the functions along the base chain of a type. -/
def inheritedIds (d : Draft) (type : Handle) : List MemberId :=
  (baseChain d.infos type.index).flatMap fun base =>
    match d.infos[base]? with
    | some t => t.functions.map (·.desc.memid)
    | none => []

/-- The size of a slot: that of the widest pointer while no attributes are set. -/
def slot (d : Draft) : Nat := (d.attributes.map (·.pointerWidth.bytes)).getD 8

/-- The draft with a type laid out, or the reason why it cannot be. Ids that were given to
functions stay, also when the layout then fails. -/
def layOut (d : Draft) (type : Handle) : Except BuildError Unit × Draft :=
  match d.unfinished type with
  | .error error => (.error error, d)
  | .ok info =>
    if info.refs.any fun ref => !d.resolves ref then (.error (.danglingReference info.name), d)
    else if info.kind.isInterface then
      let inherited := d.inheritedIds type
      let numbered := { info with functions := Layout.number inherited info.functions }
      let d := d.setInfo type numbered
      match Layout.interfaceFault? numbered inherited d.slot with
      | some error => (.error error, d)
      | none => (.ok (), d.finish type)
    else if info.kind = .coClass then
      match Layout.classFault? info with
      | some error => (.error error, d)
      | none => (.ok (), d.finish type)
    else (.ok (), d.finish type)

/-- The outcome of a request that changes the draft only if it is accepted. -/
def settle {α : Type} (d : Draft) (outcome : Except BuildError (Draft × α)) :
    Except BuildError α × Draft :=
  match outcome with
  | .ok (changed, a) => (.ok a, changed)
  | .error error => (.error error, d)

/-- The outcome of a request that is answered with nothing. -/
def settleDone (d : Draft) (outcome : Except BuildError Draft) : Except BuildError Unit × Draft :=
  d.settle (outcome.map fun changed => (changed, ()))

/-- The answer to a request, or its rejection, and the draft afterwards. -/
def answer : {kind : ReplyKind} → Request kind → Draft → Except BuildError kind.Answer × Draft
  | _, .setAttributes attributes, d => (.ok (), { d with attributes := some attributes })
  | _, .createType name kind, d => d.settle (d.createType name kind)
  | _, .setGuid type guid, d => d.settleDone (d.change type fun t => .ok { t with guid := guid })
  | _, .setVersion type version, d =>
    d.settleDone (d.change type fun t => .ok { t with version := version })
  | _, .setFlags type flags, d =>
    d.settleDone (d.change type fun t => .ok { t with flags := flags })
  | _, .setDoc type doc, d => d.settleDone (d.change type fun t => .ok { t with doc := some doc })
  | _, .addImplemented type index ref flags, d =>
    d.settleDone (d.addImplemented type index ref flags)
  | _, .addFunction type index desc, d => d.settleDone (d.addFunction type index desc)
  | _, .addVariable type index desc, d => d.settleDone (d.addVariable type index desc)
  | _, .setFunctionNames type index names, d => d.settleDone (d.setFunctionNames type index names)
  | _, .setVariableName type index name, d => d.settleDone (d.setVariableName type index name)
  | _, .setFunctionDoc type index doc, d => d.settleDone (d.setFunctionDoc type index doc)
  | _, .setVariableDoc type index doc, d => d.settleDone (d.setVariableDoc type index doc)
  | _, .addImport library, d =>
    let (changed, id) := d.addImport library
    (.ok id, changed)
  | _, .layOut type, d => d.layOut type

/-- The committed library. -/
def commit (d : Draft) : Except BuildError Library :=
  match d.attributes with
  | none => .error .missingAttributes
  | some attributes =>
    match d.types.find? fun t => !t.laidOut with
    | some t => .error (.notLaidOut t.info.name)
    | none => .ok { attributes := attributes, types := d.infos, imports := d.imports }

/-- The builder that keeps libraries in memory. -/
def builder : Builder Unit Draft Library where
  newLibrary world _ := (world, {})
  answer request world d :=
    let (outcome, changed) := d.answer request
    (outcome, world, changed)
  commit world d := (d.commit, world)

end Draft

end Automation.Library
